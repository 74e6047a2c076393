import ApiContract.Proofs.Json.Reading
import ApiContract.Proofs.Value.Part
import ApiContract.Files.Replace
import ApiContract.Settings

/-!
# Options from several sources

A mode and a prefix are each taken from the first source that gives them: the flags, the environment, the
settings file. Resolving them fails exactly when one of the sources is wrong, also where an earlier one
gives what is asked for, and what a later source says does not matter then: `resolve_precedence`.
-/

namespace ApiContract

open Outcome Text

theorem Mode.ofName?_eq_some {name : String} {m : Mode} : ofName? name = some m ↔ name = m.name := by
  constructor
  · intro h
    unfold ofName? at h
    have hname : (m.name == name) = true := List.find?_some (p := fun m : Mode => m.name == name) h
    exact (eq_of_beq hname).symm
  · rintro rfl
    exact ofName?_name m

theorem Mode.ofName?_eq_none {name : String} : ofName? name = none ↔ ∀ m : Mode, name ≠ m.name := by
  rw [Option.eq_none_iff_forall_ne_some]
  exact forall_congr' fun m => not_congr ofName?_eq_some

/-! ## The settings file -/

namespace Checked

variable {α β γ : Type}

theorem map_seq_seqLeft_eq_ok {f : α → β → γ} {x : Checked α} {y : Checked β} {z : Checked Unit}
    {c : γ} :
    ((f <$> x <*> y) <* z) = .ok c ↔ ∃ a b, x = .ok a ∧ y = .ok b ∧ z = .ok () ∧ f a b = c := by
  cases x <;> cases y <;> cases z <;> simp [Functor.map, Seq.seq, SeqLeft.seqLeft]

theorem under_eq_ok {field : String} {x : Checked α} {a : α} : x.under field = .ok a ↔ x = .ok a := by
  cases x <;> simp [under]

end Checked

namespace Field

/-- The value of a field that may be null: a text, or null for nothing. -/
def ofText? (text : Option String) : Value := (text.map Value.text).getD .null

/-- A field that may be null holds null, or a text that what is read is known by. -/
theorem optional_eq_ok {α : Type} {read : Value → Checked α} {v : Value} (name : α → String)
    (hread : ∀ a, read v = .ok a ↔ v = .text (name a)) {a : Option α} :
    optional read v = .ok a ↔ v = ofText? (a.map name) := by
  unfold optional
  split
  case isTrue hnull =>
    obtain rfl := Value.isNull_iff.1 hnull
    cases a with
    | none => simp [ofText?]
    | some a => simp [ofText?]
  case isFalse hnull =>
    have hne : v ≠ .null := fun h => hnull (Value.isNull_iff.2 h)
    cases a with
    | none =>
      cases read v <;> simp [ofText?, hne, Functor.map]
    | some a =>
      have := hread a
      cases hv : read v with
      | ok b => simpa [ofText?, hv, Functor.map, Seq.seq] using this
      | issues found => simpa [ofText?, hv, Functor.map, Seq.seq] using this

end Field

namespace ProjectSettings

variable {v : Value} {entries : List (Scalar × Value)} {settings : ProjectSettings} {text : String}

/-- What the entries of a settings file say: a mode by its name and a prefix, each of which may be left
out or null, and nothing else. -/
structure StandIn (settings : ProjectSettings) (entries : List (Scalar × Value)) : Prop where
  keys : ∀ e ∈ entries, e.1 = .text "mode" ∨ e.1 = .text "prefix"
  mode : (Value.find? "mode" entries).getD .null = Field.ofText? (settings.mode.map Mode.name)
  namePrefix : (Value.find? "prefix" entries).getD .null = Field.ofText? settings.namePrefix

theorem readMode_eq_ok {m : Mode} : readMode v = .ok m ↔ v = .text m.name := by
  unfold readMode
  split
  next name =>
    cases hname : Mode.ofName? name with
    | some found =>
      have hfound := Mode.ofName?_eq_some.1 hname
      constructor
      · intro h
        cases h
        rw [hfound]
      · intro h
        cases h
        rw [Mode.ofName?_name] at hname
        rw [Option.some.inj hname]
    | none =>
      simp only [Checked.issue, reduceCtorEq, false_iff]
      intro h
      cases h
      exact Mode.ofName?_eq_none.1 hname m rfl
  next hne =>
    simp only [Checked.issue, reduceCtorEq, false_iff]
    exact hne _

theorem unknownKeys_eq_ok :
    unknownKeys entries = .ok () ↔ ∀ e ∈ entries, e.1 = .text "mode" ∨ e.1 = .text "prefix" := by
  unfold unknownKeys
  split
  next hnone =>
    rw [List.filter_eq_nil_iff] at hnone
    simp only [true_iff]
    intro e he
    simpa [or_iff_not_imp_left] using hnone e he
  next hsome =>
    simp only [reduceCtorEq, false_iff]
    intro hall
    apply hsome
    rw [List.filter_eq_nil_iff]
    intro e he
    rcases hall e he with h | h <;> simp [h]

/-- A value of JSON has no bytes in it. -/
theorem notBytes_of_read {text : List Char} (h : Json.read text = .ok v) {bytes : List UInt8} :
    ¬ v.Part (.scalar (.bytes bytes)) := by
  have hbuilds : Json.Builds fun v => ¬ v.Part (.scalar (.bytes bytes)) :=
    { scalar := by
        intro s hs
        rw [Value.part_scalar]
        rintro ⟨⟩
        cases hs
      list := by
        intro items hitems
        rw [Value.part_list]
        rintro (heq | ⟨w, hw, hpart⟩)
        · cases heq
        · exact hitems w hw hpart
      map := by
        intro entries _ _ hvalues
        rw [Value.part_map]
        rintro (heq | ⟨e, he, hpart⟩)
        · cases heq
        · exact hvalues e he hpart }
  exact hbuilds.read text v h

theorem fieldText_eq_ok {name : String} (h : ∀ bytes, v ≠ .scalar (.bytes bytes)) :
    Field.text v = .ok name ↔ v = .text name := by
  unfold Field.text
  split
  next => simp
  next bytes => exact absurd rfl (h bytes)
  next htext _ =>
    simp only [Checked.issue, reduceCtorEq, false_iff]
    exact htext _

/-- A value of JSON holds settings if it is a mapping whose entries say what they are. -/
theorem ofValue_eq_ok {text : List Char} (h : Json.read text = .ok v) :
    ofValue v = .ok settings ↔ ∃ entries, v = .map entries ∧ settings.StandIn entries := by
  unfold ofValue
  split
  next entries =>
    have hleading : ∀ bytes, (Value.find? "prefix" entries).getD .null ≠ .scalar (.bytes bytes) := by
      intro bytes heq
      cases hfind : Value.find? "prefix" entries with
      | none => simp [hfind] at heq
      | some w =>
        obtain rfl : w = .scalar (.bytes bytes) := by simpa [hfind] using heq
        exact notBytes_of_read h (Value.Part.self.find? hfind)
    rw [Checked.map_seq_seqLeft_eq_ok]
    simp only [Checked.under_eq_ok, unknownKeys_eq_ok,
      Field.optional_eq_ok Mode.name fun m => readMode_eq_ok,
      Field.optional_eq_ok id fun name => fieldText_eq_ok hleading, Value.map.injEq,
      exists_eq_left']
    constructor
    · rintro ⟨m, p, hmode, hname, hkeys, rfl⟩
      exact ⟨hkeys, hmode, by simpa using hname⟩
    · rintro ⟨hkeys, hmode, hname⟩
      exact ⟨_, _, hmode, by simpa using hname, hkeys, rfl⟩
  next hne =>
    simp only [Checked.issue, reduceCtorEq, false_iff]
    rintro ⟨entries, rfl, -⟩
    exact hne entries rfl

/-- A text holds settings: it is JSON of a mapping whose entries say what they are. -/
def Says (text : String) (settings : ProjectSettings) : Prop :=
  ∃ entries, Json.read text.toList = .ok (.map entries) ∧ settings.StandIn entries

theorem read_eq_ok : read text = .ok settings ↔ Says text settings := by
  unfold read Says Format.read
  cases hv : Json.read text.toList with
  | ok v =>
    simp only [bind, Except.bind, Except.ok.injEq]
    rw [← ofValue_eq_ok hv]
    cases ofValue v <;> simp [pure, Except.pure]
  | error failure => cases failure <;> simp [bind, Except.bind]

/-- A text without settings is rejected, unless an integer in it is too long to be read. -/
theorem read_of_not_says (hlong : Json.read text.toList ≠ .error .longNumeral)
    (h : ∀ settings, ¬ Says text settings) : ∃ problem, read text = .error (.settings problem) := by
  simp only [← read_eq_ok] at h
  unfold read Format.read at h ⊢
  cases hv : Json.read text.toList with
  | ok v =>
    simp only [hv, bind, Except.bind] at h ⊢
    cases hof : ofValue v with
    | ok settings =>
      simp only [hof] at h
      exact absurd rfl (h settings)
    | issues found => exact ⟨_, rfl⟩
  | error failure =>
    cases failure with
    | problem problem rest => exact ⟨_, rfl⟩
    | longNumeral => exact absurd hv hlong

/-! ### The file of a directory -/

variable {directory : Directory}

/-- What the settings file of a directory says; without one nothing is said. -/
def Gives (directory : Directory) (settings : ProjectSettings) : Prop :=
  match directory.read fileName with
  | .found bytes => ∃ text, textOfBytes bytes = .ok text ∧ Says text settings
  | .missing | .refused => settings = {}

/-- The settings file of a directory, if there is one, is text, and no integer that is read in it has more
digits than a numeral may have. -/
def IsReadable (directory : Directory) : Prop :=
  ∀ bytes, directory.read fileName = .found bytes →
    ∃ text, textOfBytes bytes = .ok text ∧ Json.read text.toList ≠ .error .longNumeral

theorem load_eq_ok : load directory = .ok settings ↔ Gives directory settings := by
  unfold load Gives
  cases directory.read fileName with
  | found bytes => simp only [bind_eq_ok, read_eq_ok]
  | missing => simp [pure, Except.pure, eq_comm]
  | refused => simp [pure, Except.pure, eq_comm]

theorem Gives.isReadable (h : Gives directory settings) : IsReadable directory := by
  intro bytes hfound
  unfold Gives at h
  rw [hfound] at h
  obtain ⟨text, htext, entries, hread, -⟩ := h
  exact ⟨text, htext, by simp [hread]⟩

theorem load_of_not_gives (hreadable : IsReadable directory)
    (h : ∀ settings, ¬ Gives directory settings) :
    ∃ problem, load directory = .error (.settings problem) := by
  simp only [← load_eq_ok] at h
  unfold load at h ⊢
  cases hfound : directory.read fileName with
  | found bytes =>
    obtain ⟨text, htext, hlong⟩ := hreadable bytes hfound
    simp only [hfound, htext, bind, Except.bind] at h ⊢
    exact read_of_not_says hlong fun settings hs => h settings (read_eq_ok.2 hs)
  | missing => exact absurd (by simp [hfound, pure, Except.pure]) (h {})
  | refused => exact absurd (by simp [hfound, pure, Except.pure]) (h {})

end ProjectSettings

/-! ## All sources -/

namespace Options

variable {modeFlag prefixFlag : Option String} {environment : List (String × String)}
  {directory : Directory} {options : Options}

/-- The mode in the environment; an empty one counts as none. -/
def environmentMode (environment : List (String × String)) : Option String :=
  (environment.lookup modeVariable).filter (· != "")

/-- A text names no mode in any case. -/
def UnknownMode (name : String) : Prop := ∀ m : Mode, lowerString name ≠ m.name

/-- A source names a mode in some case, or it names none and there is no mode. -/
def Names (source : Option String) (m : Option Mode) : Prop := source.map lowerString = m.map Mode.name

/-- What the first source says that says something, or what stands in for all of them. -/
def firstOf {α : Type} (sources : List (Option α)) (otherwise : α) : α :=
  (sources.findSome? id).getD otherwise

theorem firstOf_append {α : Type} (before : List (Option α)) {a : α} (h : some a ∈ before)
    (after after' : List (Option α)) (otherwise : α) :
    firstOf (before ++ after) otherwise = firstOf (before ++ after') otherwise := by
  cases hfind : before.findSome? id with
  | none => simpa using List.findSome?_eq_none_iff.1 hfind (some a) h
  | some b => simp [firstOf, List.findSome?_append, hfind]

theorem readMode_eq_ok {place name : String} {m : Mode} :
    readMode place name = .ok m ↔ lowerString name = m.name := by
  rw [← Mode.ofName?_eq_some]
  unfold readMode
  cases Mode.ofName? (lowerString name) <;> simp

theorem modeFrom_eq_ok {place : String} {source : Option String} {m : Option Mode} :
    modeFrom place source = .ok m ↔ Names source m := by
  unfold modeFrom Names
  cases source with
  | none => cases m <;> simp
  | some name => cases m <;> simp [map_eq_ok, readMode_eq_ok]

/-- A source that names no mode is one that gives an unknown mode, and it is rejected. -/
theorem modeFrom_of_unknown (place : String) {name : String} {source : Option String} (h : name ∈ source)
    (hunknown : UnknownMode name) : ∃ problem, modeFrom place source = .error (.settings problem) := by
  obtain rfl := Option.mem_def.1 h
  have hnone := Mode.ofName?_eq_none.2 hunknown
  exact ⟨.unknownMode name place, by simp [modeFrom, readMode, hnone, Functor.map, Except.map]⟩

theorem names_of_known {source : Option String} (h : ¬ ∃ name ∈ source, UnknownMode name) :
    ∃ m, Names source m := by
  cases source with
  | none => exact ⟨none, rfl⟩
  | some name =>
    have hknown : ¬ UnknownMode name := fun hname => h ⟨name, rfl, hname⟩
    simp only [UnknownMode, not_forall, not_not] at hknown
    obtain ⟨m, hm⟩ := hknown
    exact ⟨some m, by simp [Names, hm]⟩

theorem Names.known {source : Option String} {m : Option Mode} (h : Names source m) :
    ¬ ∃ name ∈ source, UnknownMode name := by
  rintro ⟨name, rfl, hunknown⟩
  cases m with
  | none => simp [Names] at h
  | some m => exact hunknown m (by simpa [Names] using h)

/-- One of the sources is wrong: the settings file is rejected, or an unknown mode is given. -/
def IsRejected (modeFlag : Option String) (environment : List (String × String))
    (directory : Directory) : Prop :=
  (∀ settings, ¬ ProjectSettings.Gives directory settings) ∨
    (∃ name ∈ environmentMode environment, UnknownMode name) ∨ ∃ name ∈ modeFlag, UnknownMode name

/-- The options are what the sources say, each from the first source that gives it. -/
def Chosen (modeFlag prefixFlag : Option String) (environment : List (String × String))
    (directory : Directory) (options : Options) : Prop :=
  ∃ settings ofFlag ofEnvironment, ProjectSettings.Gives directory settings ∧
    Names modeFlag ofFlag ∧ Names (environmentMode environment) ofEnvironment ∧
    options.mode = firstOf [ofFlag, ofEnvironment, settings.mode] .handler ∧
    options.namePrefix =
      firstOf [prefixFlag, environment.lookup prefixVariable, settings.namePrefix] ""

theorem firstOf_three {α : Type} (a b c : Option α) (otherwise : α) :
    ((a <|> b) <|> c).getD otherwise = firstOf [a, b, c] otherwise := by
  cases a <;> cases b <;> cases c <;> rfl

theorem resolve_eq_ok :
    resolve modeFlag prefixFlag environment directory = .ok options ↔
      Chosen modeFlag prefixFlag environment directory options := by
  unfold resolve
  simp only [bind_eq_ok, ProjectSettings.load_eq_ok, modeFrom_eq_ok, pure_eq_ok, firstOf_three]
  constructor
  · rintro ⟨settings, hgives, ofEnvironment, henvironment, ofFlag, hflag, rfl⟩
    exact ⟨settings, ofFlag, ofEnvironment, hgives, hflag, henvironment, rfl, rfl⟩
  · rintro ⟨settings, ofFlag, ofEnvironment, hgives, hflag, henvironment, hmode, hleading⟩
    refine ⟨settings, hgives, ofEnvironment, henvironment, ofFlag, hflag, ?_⟩
    rw [← hmode, ← hleading]

theorem Chosen.not_rejected (h : Chosen modeFlag prefixFlag environment directory options) :
    ¬ IsRejected modeFlag environment directory := by
  obtain ⟨settings, ofFlag, ofEnvironment, hgives, hflag, henvironment, -⟩ := h
  rintro (hfile | hmode | hmode)
  · exact hfile settings hgives
  · exact henvironment.known hmode
  · exact hflag.known hmode

theorem exists_chosen (prefixFlag : Option String)
    (h : ¬ IsRejected modeFlag environment directory) :
    ∃ options, Chosen modeFlag prefixFlag environment directory options := by
  simp only [IsRejected, not_or, not_forall, not_not] at h
  obtain ⟨⟨settings, hgives⟩, henvironment, hflag⟩ := h
  obtain ⟨ofEnvironment, henvironment⟩ := names_of_known henvironment
  obtain ⟨ofFlag, hflag⟩ := names_of_known hflag
  exact ⟨⟨_, _⟩, settings, ofFlag, ofEnvironment, hgives, hflag, henvironment, rfl, rfl⟩

theorem resolve_of_rejected (hreadable : ProjectSettings.IsReadable directory)
    (h : IsRejected modeFlag environment directory) :
    ∃ problem, resolve modeFlag prefixFlag environment directory = .error (.settings problem) := by
  unfold resolve
  by_cases hfile : ∀ settings, ¬ ProjectSettings.Gives directory settings
  · obtain ⟨problem, hload⟩ := ProjectSettings.load_of_not_gives hreadable hfile
    exact ⟨problem, by rw [hload]; rfl⟩
  obtain ⟨settings, hgives⟩ := by simpa using hfile
  rw [ProjectSettings.load_eq_ok.2 hgives]
  by_cases henvironment : ∃ name ∈ environmentMode environment, UnknownMode name
  · obtain ⟨name, hname, hunknown⟩ := henvironment
    obtain ⟨problem, hmode⟩ := modeFrom_of_unknown modeVariable hname hunknown
    exact ⟨problem, by simp only [bind, Except.bind]; rw [← environmentMode, hmode]⟩
  obtain ⟨ofEnvironment, hnames⟩ := names_of_known henvironment
  obtain ⟨name, hname, hunknown⟩ := (h.resolve_left hfile).resolve_left henvironment
  obtain ⟨problem, hmode⟩ := modeFrom_of_unknown "--mode" hname hunknown
  refine ⟨problem, ?_⟩
  simp only [bind, Except.bind]
  rw [← environmentMode, modeFrom_eq_ok.2 hnames, hmode]

theorem Names.unique {source : Option String} {m m' : Option Mode} (h : Names source m)
    (h' : Names source m') : m = m' := by
  have hinj : Function.Injective Mode.name := fun m m' h =>
    Option.some.inj (by rw [← Mode.ofName?_name m, h, Mode.ofName?_name])
  exact Option.map_injective hinj (h.symm.trans h')

theorem Names.given {source : Option String} {m : Option Mode} (h : Names source m)
    (hsome : source.isSome) : ∃ k, m = some k := by
  have hmap := congrArg Option.isSome h
  rw [Option.isSome_map, Option.isSome_map] at hmap
  exact Option.isSome_iff_exists.1 (hmap ▸ hsome)

variable {modeFlag' prefixFlag' : Option String} {environment' : List (String × String)}
  {directory' : Directory} {options' : Options}

/-- Two choices of options agree in the mode where they agree in the source that gives it and in those
before that. -/
theorem Chosen.mode_eq (h : Chosen modeFlag prefixFlag environment directory options)
    (h' : Chosen modeFlag' prefixFlag' environment' directory' options') (hflag : modeFlag' = modeFlag)
    (hgiven : modeFlag.isSome ∨ environmentMode environment' = environmentMode environment ∧
      (environmentMode environment).isSome) : options'.mode = options.mode := by
  subst hflag
  obtain ⟨settings, ofFlag, ofEnvironment, -, hflag, henvironment, hmode, -⟩ := h
  obtain ⟨settings', ofFlag', ofEnvironment', -, hflag', henvironment', hmode', -⟩ := h'
  obtain rfl := hflag.unique hflag'
  rw [hmode, hmode']
  rcases hgiven with hsome | ⟨heq, hsome⟩
  · obtain ⟨m, rfl⟩ := hflag.given hsome
    exact firstOf_append [some m] (List.mem_singleton_self _) _ _ _
  · obtain rfl := henvironment.unique (heq ▸ henvironment')
    obtain ⟨m, rfl⟩ := henvironment.given hsome
    exact firstOf_append [ofFlag, some m] (a := m) (by simp) [_] [_] _

theorem Chosen.namePrefix_eq (h : Chosen modeFlag prefixFlag environment directory options)
    (h' : Chosen modeFlag' prefixFlag' environment' directory' options')
    (hflag : prefixFlag' = prefixFlag)
    (hgiven : prefixFlag.isSome ∨
      environment'.lookup prefixVariable = environment.lookup prefixVariable ∧
        (environment.lookup prefixVariable).isSome) : options'.namePrefix = options.namePrefix := by
  subst hflag
  obtain ⟨settings, -, -, -, -, -, -, hleading⟩ := h
  obtain ⟨settings', -, -, -, -, -, -, hleading'⟩ := h'
  rw [hleading, hleading']
  rcases hgiven with hsome | ⟨heq, hsome⟩
  · obtain ⟨s, rfl⟩ := Option.isSome_iff_exists.1 hsome
    exact firstOf_append [some s] (List.mem_singleton_self _) _ _ _
  · rw [heq]
    obtain ⟨s, hs⟩ := Option.isSome_iff_exists.1 hsome
    exact firstOf_append [_, _] (a := s) (by simp [hs]) [_] [_] _

/-- Options are rejected exactly where a source is wrong, whatever the sources before it say; otherwise
each is taken from the first source that gives it. Where two runs agree up to that source, they agree in
the option, whatever the sources behind it say. -/
theorem resolve_precedence (modeFlag prefixFlag : Option String) (environment : List (String × String))
    (directory : Directory) (hreadable : ProjectSettings.IsReadable directory) :
    ((∃ problem, resolve modeFlag prefixFlag environment directory = .error (.settings problem)) ↔
        IsRejected modeFlag environment directory) ∧
      (¬ IsRejected modeFlag environment directory →
        ∃ options, resolve modeFlag prefixFlag environment directory = .ok options ∧
          Chosen modeFlag prefixFlag environment directory options ∧
          ∀ modeFlag' prefixFlag' environment' directory' options',
            resolve modeFlag' prefixFlag' environment' directory' = .ok options' →
            (modeFlag' = modeFlag →
              modeFlag.isSome ∨ environmentMode environment' = environmentMode environment ∧
                (environmentMode environment).isSome →
              options'.mode = options.mode) ∧
            (prefixFlag' = prefixFlag →
              prefixFlag.isSome ∨
                environment'.lookup prefixVariable = environment.lookup prefixVariable ∧
                  (environment.lookup prefixVariable).isSome →
              options'.namePrefix = options.namePrefix)) := by
  refine ⟨⟨fun ⟨problem, hrun⟩ => ?_, resolve_of_rejected hreadable⟩, fun hvalid => ?_⟩
  · by_contra hvalid
    obtain ⟨options, hchosen⟩ := exists_chosen prefixFlag hvalid
    rw [resolve_eq_ok.2 hchosen] at hrun
    cases hrun
  · obtain ⟨options, hchosen⟩ := exists_chosen prefixFlag hvalid
    refine ⟨options, resolve_eq_ok.2 hchosen, hchosen, fun _ _ _ _ _ hrun => ?_⟩
    have hchosen' := resolve_eq_ok.1 hrun
    exact ⟨hchosen.mode_eq hchosen', hchosen.namePrefix_eq hchosen'⟩

/-- A folder with a settings file that names a mode and a prefix. -/
def sampleFolder : Directory :=
  Directory.empty.put ["specroute.json"]
    (Directory.bytesOf "\x7b\"mode\": \"server\", \"prefix\": \"File\"\x7d")

/-- An environment that names a mode in capitals, and an empty prefix. -/
def sampleEnvironment : List (String × String) :=
  [("SPECROUTE_MODE", "REQUEST"), ("SPECROUTE_PREFIX", "")]

/-- Both options of the environment count before any settings file. A wrong mode in the environment is
rejected under a flag that names a mode. -/
theorem resolve_precedence_sampleFolder :
    ProjectSettings.IsReadable sampleFolder ∧
      resolve none none sampleEnvironment sampleFolder = .ok ⟨.request, ""⟩ ∧
      (∀ directory options, resolve none none sampleEnvironment directory = .ok options →
        options.mode = .request ∧ options.namePrefix = "") ∧
      ∃ problem, resolve (some "client") none [("SPECROUTE_MODE", "teapot")] sampleFolder =
        .error (.settings problem) := by
  have hload : ProjectSettings.load sampleFolder = .ok ⟨some .server, some "File"⟩ := by
    obtain ⟨settings, hload, rfl⟩ := eq_ok_of_toOption (f := id)
      (show (ProjectSettings.load sampleFolder).toOption.map id = some ⟨some .server, some "File"⟩ by
        decide +kernel)
    exact hload
  have hgives := ProjectSettings.load_eq_ok.1 hload
  have hnames : Names (environmentMode sampleEnvironment) (some .request) := by
    unfold Names
    decide +kernel
  have hchosen : Chosen none none sampleEnvironment sampleFolder ⟨.request, ""⟩ :=
    ⟨_, none, some .request, hgives, rfl, hnames, rfl, rfl⟩
  have hok := resolve_eq_ok.2 hchosen
  obtain ⟨options, hrun, -, hagree⟩ :=
    (resolve_precedence none none _ _ hgives.isReadable).2 hchosen.not_rejected
  obtain rfl := Except.ok.inj (hrun.symm.trans hok)
  refine ⟨hgives.isReadable, hok, fun directory options hrun => ?_, ?_⟩
  · obtain ⟨hmode, hleading⟩ := hagree none none _ directory options hrun
    exact ⟨hmode rfl (.inr ⟨rfl, by decide +kernel⟩), hleading rfl (.inr ⟨rfl, by decide +kernel⟩)⟩
  · refine (resolve_precedence _ none _ _ hgives.isReadable).1.2 (.inr (.inl ⟨"teapot", ?_, ?_⟩))
    · decide +kernel
    · intro m
      cases m <;> decide +kernel

end Options

end ApiContract
