import ApiContract.Proofs.Schema.Faults
import ApiContract.Proofs.Unplaced

/-!
# Where faults are reported

A `Survey` of a document tells which pointers lead where, and to which of them a fault may point, in so
far as the compiler relies on it: it walks from mappings to their entries and from lists to their items,
follows references, and reports a fault at what it walked to or at a key there. What holds of every
survey holds of all ways to look at the places of faults; that there is no more to them than the places
is one (`Survey.trivial`). A schema is read and compiled without references being followed, and asks for
less: for the `Chart` of a survey.
-/

namespace ApiContract

open Outcome

namespace Value

variable {v w : Value} {key : String}

/-! ## Mappings -/

theorem isNull_of_isSome_entries? (h : v.entries?.isSome = true) : v.isNull = false := by
  cases v with
  | map => rfl
  | scalar | list | set | endless => cases h

theorem isNull_of_entries {entries : List (Scalar × Value)} (h : v.entries = .ok entries) :
    v.isNull = false := by
  cases v with
  | map => rfl
  | scalar | list | set | endless => cases h

/-- Keys are looked up in mappings only. -/
theorem isSome_entries?_of_get {found : Option Value} (h : v.get key = .ok found) :
    v.entries?.isSome = true := by
  cases v with
  | map => rfl
  | scalar | list | set | endless => cases h

theorem isSome_entries?_of_getOrNull (h : v.getOrNull key = .ok w) : v.entries?.isSome = true := by
  obtain ⟨found, hfound, -⟩ := bind_eq_ok.1 h
  exact isSome_entries?_of_get hfound

end Value

/-- What pointers lead to among the schemas of a document. -/
structure Chart where
  /-- The pointer leads to the value. -/
  leads : (path : String) → Value → Prop
  /-- The pointers below this one lead to what is in the value. -/
  opens : (path : String) → Value → Prop
  /-- A fault may point there. -/
  points : (path : String) → Prop
  opens_of_leads {path : String} {v : Value} : leads path v → opens path v
  entry {path key : String} {entries : List (Scalar × Value)} {v : Value} :
    opens path (.map entries) → (Scalar.text key, v) ∈ entries → leads (Pointer.child path key) v
  item {path : String} {items : List Value} {i : Nat} {v : Value} :
    leads path (.list items) → items[i]? = some v → leads (Pointer.item path i) v
  points_of_leads {path : String} {v : Value} : leads path v → points path
  reported {path keyword : String} {entries : List (Scalar × Value)} :
    leads path (.map entries) → keyword ∈ Schema.reportedKeywords →
      points (Pointer.raw path keyword)

/-- What pointers into a document lead to. -/
structure Survey (document : Value) extends Chart where
  root : leads "#" document
  status {path : String} {entries : List (Scalar × Value)} {e : Scalar × Value} :
    opens (Pointer.raw path "responses") (.map entries) → e ∈ entries →
      leads (Pointer.raw (Pointer.raw path "responses") e.1.display) e.2
  reference {path ref : String} {v w : Value} : leads path v → v.get? "$ref" = some (.text ref) →
    Pointer.find document ref = .ok w → opens path w
  key {path key : String} {entries : List (Scalar × Value)} :
    opens path (.map entries) → points (Pointer.child path key)
  media {path type : String} {v : Value} :
    leads (Pointer.child (Pointer.raw path "content") type) v →
      points (Pointer.raw (Pointer.child (Pointer.raw path "content") type) "schema")
  server {entries : List (Scalar × Value)} {e : Scalar × Value} :
    opens (Pointer.raw "#" "servers") (.map entries) → e ∈ entries → e.1.alike (.int 0) = true →
      points Service.serverPath
  reported h hkeyword :=
    Pointer.raw_eq_child (Schema.escape_of_reported hkeyword) ▸ key (opens_of_leads h)

namespace Chart

variable (S : Chart) {path key : String} {v w : Value} {entries : List (Scalar × Value)}

theorem get? (h : S.opens path v) (hkey : Pointer.escape key = key) (hget : v.get? key = some w) :
    S.leads (Pointer.raw path key) w := by
  cases v with
  | map entries =>
    rw [Pointer.raw_eq_child hkey]
    exact S.entry h (Value.mem_of_find? hget)
  | scalar | list | set | endless => cases hget

theorem entry_of_entries (h : S.opens path v) (hentries : v.entries = .ok entries)
    (hmem : (Scalar.text key, w) ∈ entries) : S.leads (Pointer.child path key) w := by
  cases v with
  | map _ =>
    cases hentries
    exact S.entry h hmem
  | scalar | list | set | endless => cases hentries

/-- The fault has no place, or it points where it may and has its cause there. -/
def Placed (fault : Fault) : Prop :=
  ∀ cause path, fault = .uncompilable cause path → cause.IsLocal ∧ S.points path

instance : HoldsUnplaced S.Placed where
  unexpected := nofun
  rejected := nofun

@[simp] theorem placed_uncompilable {cause : Cause} {path : String} :
    S.Placed (.uncompilable cause path) ↔ cause.IsLocal ∧ S.points path := by
  simp [Placed]

@[simp] theorem failsAs_uncompilable {α : Type} {cause : Cause} {path : String} :
    FailsAs S.Placed (uncompilable cause path : Except Fault α) ↔
      cause.IsLocal ∧ S.points path := by
  simp [uncompilable]

end Chart

namespace Survey

/-- The survey that tells nothing of places. -/
def trivial (document : Value) : Survey document where
  leads _ _ := True
  opens _ _ := True
  points _ := True
  root := True.intro
  opens_of_leads _ := True.intro
  entry _ _ := True.intro
  item _ _ := True.intro
  status _ _ := True.intro
  reference _ _ _ := True.intro
  points_of_leads _ := True.intro
  key _ := True.intro
  media _ := True.intro
  server _ _ _ := True.intro

variable {document : Value} (S : Survey document) {path key : String} {v w : Value}
  {entries : List (Scalar × Value)}

/-! ## Walking on -/

theorem getOrNull (h : S.opens path v) (hkey : Pointer.escape key = key)
    (hget : v.getOrNull key = .ok w) (hw : w.isNull = false) : S.leads (Pointer.raw path key) w := by
  simp only [Value.getOrNull, bind_eq_ok, pure_eq_ok] at hget
  obtain ⟨found, hfound, rfl⟩ := hget
  cases v with
  | map entries =>
    obtain rfl : Value.find? key entries = found := by simpa [Value.get] using hfound
    cases hfind : Value.find? key entries with
    | none =>
      rw [hfind] at hw
      cases hw
    | some v => exact S.get? h hkey hfind
  | scalar | list | set | endless => cases hfound

/-- An entry of a value at a key, which may be left out. -/
theorem entriesOrNone (h : S.opens path v) (hkey : Pointer.escape key = key)
    (hget : v.getOrNull key = .ok w) (hentries : w.entriesOrNone = .ok entries)
    {name : String} {u : Value} (hmem : (Scalar.text name, u) ∈ entries) :
    S.leads (Pointer.child (Pointer.raw path key) name) u := by
  unfold Value.entriesOrNone at hentries
  split at hentries
  next =>
    cases hentries
    cases hmem
  next =>
    have hplace := S.getOrNull h hkey hget (Value.isNull_of_entries hentries)
    exact S.entry_of_entries (S.opens_of_leads hplace) hentries hmem

theorem keyword (h : S.opens path (.map entries)) (hkey : Pointer.escape key = key) :
    S.points (Pointer.raw path key) := by
  rw [Pointer.raw_eq_child hkey]
  exact S.key h

/-- The place of a key of a value in which keys are looked up. -/
theorem keyword_of_get (h : S.opens path v) (hkey : Pointer.escape key = key) {name : String}
    {found : Option Value} (hget : v.get name = .ok found) : S.points (Pointer.raw path key) := by
  cases v with
  | map entries => exact S.keyword h hkey
  | scalar | list | set | endless => cases hget

theorem keyword_of_getOrNull (h : S.opens path v) (hkey : Pointer.escape key = key) {name : String}
    (hget : v.getOrNull name = .ok w) : S.points (Pointer.raw path key) := by
  obtain ⟨found, hfound, -⟩ := bind_eq_ok.1 hget
  exact S.keyword_of_get h hkey hfound

/-! ## Faults -/

/-- The fault has no place, or it points where it may and is not a cycle of declarations. -/
def Traced (fault : Fault) : Prop :=
  ∀ cause path, fault = .uncompilable cause path → (∀ names, cause ≠ .cycle names) ∧ S.points path

instance : HoldsUnplaced S.Traced where
  unexpected := nofun
  rejected := nofun

theorem traced_of_placed {α : Type} {x : Except Fault α} (h : FailsAs S.Placed x) :
    FailsAs S.Traced x := by
  refine h.imp fun fault hfault cause path heq => ?_
  obtain ⟨hcause, hpoints⟩ := hfault cause path heq
  refine ⟨?_, hpoints⟩
  rintro names rfl
  exact hcause

/-! ## References -/

theorem failsAs_resolve (h : v.entries?.isSome = true → S.leads path v) :
    FailsAs S.Placed (Pointer.resolve document v path) := by
  unfold Pointer.resolve
  cases hget : v.get? "$ref" with
  | none => exact failsAs_ok v
  | some target =>
    have hpoints : S.points (Pointer.raw path "$ref") := by
      cases v with
      | map entries => exact S.keyword (S.opens_of_leads (h rfl)) rfl
      | scalar | list | set | endless => cases hget
    split
    next => exact failsAs_ok v
    next =>
      unfold Pointer.follow
      split
      next => split <;> simp [hpoints]
      next => simp [hpoints]
    next => simp [hpoints]

/-- What is in the value that stands for a reference is reached below the reference. -/
theorem opens_of_resolve (h : v.entries?.isSome = true → S.leads path v)
    (hresolve : Pointer.resolve document v path = .ok w) (hw : w.entries?.isSome = true) :
    S.opens path w := by
  unfold Pointer.resolve at hresolve
  split at hresolve
  next =>
    cases hresolve
    exact S.opens_of_leads (h hw)
  next ref hget =>
    have hv : v.entries?.isSome = true := by
      cases v with
      | map entries => rfl
      | scalar | list | set | endless => cases hget
    split at hresolve
    next =>
      unfold Pointer.follow at hresolve
      split at hresolve
      next hfind =>
        cases hresolve
        exact S.reference (h hv) hget hfind
      next => cases hresolve
    next => cases hresolve
  next => cases hresolve

end Survey

end ApiContract
