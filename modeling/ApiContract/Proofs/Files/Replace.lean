import ApiContract.Files.Replace
import Mathlib.Data.List.Basic
import Mathlib.Logic.Function.Basic

/-!
# Writes that are all or nothing

A write goes to a temporary file first, which then takes the place of its target. So it either puts the
text into the target, and changes no other file, or it changes no file at all, whatever step the system
refuses, with one exception: when a step between creating the temporary file and closing it is refused
and closing it is refused as well, the temporary file is left behind. `Write.runAll_isWhole` says so of
any number of writes, one after the other.
-/

namespace ApiContract

namespace Directory

variable {d : Directory} {place target temporary : Place} {content : List UInt8}
  {f : FileName} {text base : String} {refused : WriteStep → Bool}

/-! ## Files -/

theorem file?_eq_none_iff : d.file? place = none ↔ ∀ e ∈ d.files, e.1 ≠ place := by
  rw [file?, List.lookup_eq_none_iff]
  refine forall₂_congr fun e _ => ?_
  rw [bne_iff_ne, ne_comm]

theorem file?_erase_self : (d.erase place).file? place = none := by
  rw [file?_eq_none_iff]
  intro e he
  simpa using (List.mem_filter.1 he).2

theorem file?_congr {made : Directory} (h : made.files = d.files) : made.file? = d.file? := by
  funext place
  rw [file?, file?, h]

theorem file?_put_eq : (d.put place content).file? = Function.update d.file? place (some content) := by
  funext other
  by_cases h : other = place
  · subst h
    rw [file?_put, Function.update_self]
  · rw [file?_put_of_ne h, Function.update_of_ne h]

/-- A file that is put where there was none can be taken away again. -/
theorem file?_erase_put (h : d.file? temporary = none) :
    ((d.put temporary content).erase temporary).file? = d.file? := by
  funext other
  by_cases ho : other = temporary
  · rw [ho, file?_erase_self, h]
  · rw [file?_erase_of_ne ho, file?_put_of_ne ho]

/-- Folders are made without a change to the files. -/
theorem files_makeFolders (place : Place) (names : List String) :
    (d.makeFolders place names).2.files = d.files := by
  fun_induction makeFolders d place names with
  | case1 => rfl
  | case2 _ _ _ _ _ _ ih => exact ih
  | case3 => rfl
  | case4 _ _ _ _ _ _ _ ih => exact ih

/-! ## Targets -/

/-- The place that a file name stands for. -/
def placeOf (f : FileName) : Place := f.names.foldl step (startOf f)

/-- The folder that is made is the one that the names lead to. -/
theorem makeFolders_fst {folder : Place} {names : List String}
    (h : (d.makeFolders place names).1 = some folder) : folder = names.foldl step place := by
  fun_induction makeFolders d place names with
  | case1 d place => exact (Option.some.inj h).symm
  | case2 _ _ _ _ _ _ ih => exact ih h
  | case3 => cases h
  | case4 _ _ _ _ _ _ _ ih => exact ih h

/-- From its folder, the last name of a file leads to the place of the file. -/
theorem follow?_base (d : Directory) (f : FileName) :
    d.follow? (f.folder.foldl step (startOf f)) f.names.getLast?.toList = some (placeOf f) := by
  rw [placeOf, FileName.folder]
  rcases List.eq_nil_or_concat f.names with h | ⟨names, last, h⟩
  · rw [h]
    rfl
  · simp [h, follow?]

/-- The folders that are made for a file and the place of the temporary file, if there can be one. -/
def stage? (f : FileName) (d : Directory) : Option (Directory × Place) :=
  let made := d.makeFolders (startOf f) f.folder
  if ({ f with names := f.folder } : FileName).isPath && hasTemporary f.base then
    made.1.map fun folder => (made.2, folder ++ [made.2.freshName f.base])
  else none

theorem file?_of_stage? {made : Directory} (h : d.stage? f = some (made, temporary)) :
    made.file? = d.file? := by
  obtain ⟨-, folder, -, hmade⟩ := by simpa [stage?] using h
  obtain ⟨rfl, -⟩ := hmade
  exact file?_congr (files_makeFolders _ _)

/-- Without a temporary file nothing is written. -/
theorem replace_of_stage?_eq_none (text : String) (refused : WriteStep → Bool)
    (h : d.stage? f = none) :
    (d.replace refused f text).done = false ∧ (d.replace refused f text).directory.file? = d.file? := by
  have hfiles := files_makeFolders (d := d) (startOf f) f.folder
  rw [replace]
  split
  case isTrue => exact ⟨rfl, rfl⟩
  case isFalse hpath =>
    rcases hm : d.makeFolders (startOf f) f.folder with ⟨_ | folder, made⟩
    · rw [hm] at hfiles
      exact ⟨rfl, file?_congr hfiles⟩
    · obtain rfl := makeFolders_fst (congrArg Prod.fst hm)
      rw [hm] at hfiles
      have hbase : hasTemporary f.base = false := by
        simpa [stage?, hm, eq_true_of_ne_false (by simpa using hpath)] using h
      simp only [follow?_base, hbase]
      exact ⟨rfl, file?_congr hfiles⟩

theorem replace_of_stage? {made : Directory} (h : d.stage? f = some (made, temporary)) :
    d.replace refused f text = made.replaceAt refused temporary (placeOf f) text := by
  obtain ⟨⟨hpath, hbase⟩, folder, hm, hmade⟩ := by simpa [stage?] using h
  obtain ⟨rfl, rfl⟩ := hmade
  obtain rfl := makeFolders_fst hm
  rw [replace, if_neg (by simp [hpath])]
  rcases hd : d.makeFolders (startOf f) f.folder with ⟨folder, made⟩
  obtain rfl : folder = some _ := (congrArg Prod.fst hd).symm.trans hm
  simp only [follow?_base, hbase, if_true]

theorem length_lt_length_freshName (base : String) (d : Directory) :
    base.length + 4 < (d.freshName base).length := by
  have hend : ".tmp".length = 4 := by decide
  have hpoint : ".".length = 1 := by decide
  simp only [freshName, String.length_append, hend, hpoint]
  omega

theorem le_foldl_max {n least : Nat} {ns : List Nat} (h : n ≤ least ∨ n ∈ ns) :
    n ≤ ns.foldl max least := by
  induction ns generalizing least with
  | nil => simpa using h
  | cons m ns ih =>
    refine ih ?_
    rcases h with h | h
    · exact .inl (Nat.le_trans h (Nat.le_max_left least m))
    · rcases List.mem_cons.1 h with rfl | h
      · exact .inl (Nat.le_max_right least n)
      · exact .inr h

/-- No file has the name of a temporary file yet. -/
theorem file?_freshName (folder : Place) (base : String) :
    d.file? (folder ++ [d.freshName base]) = none := by
  rw [file?_eq_none_iff]
  intro e he hp
  have hlast : (e.1.getLast?.getD "").length ≤
      (d.files.map fun e => (e.1.getLast?.getD "").length).foldl max 0 :=
    le_foldl_max (.inr (List.mem_map.2 ⟨e, he, rfl⟩))
  have hend : ".tmp".length = 4 := by decide
  rw [hp, List.getLast?_concat, Option.getD_some] at hlast
  simp only [freshName, String.length_append, String.length_ofList, List.length_replicate,
    hend] at hlast
  omega

theorem step_ne_concat {name other : String} (hn : other ≠ name) (hp : other ≠ "..") :
    step place name ≠ place ++ [other] := by
  have hlength : place.length ≠ (place ++ [other]).length := by simp
  rw [step]
  split
  case isTrue =>
    split
    · simpa using hp.symm
    · split
      · exact fun h => hlength (congrArg List.length h)
      · intro h
        have := congrArg List.length h
        simp at this
  case isFalse => simpa using hn.symm

/-- The temporary file is new, and it is not the target. -/
theorem temporary_of_stage? {made : Directory} (h : d.stage? f = some (made, temporary)) :
    made.file? temporary = none ∧ placeOf f ≠ temporary := by
  obtain ⟨-, folder, hm, hmade⟩ := by simpa [stage?] using h
  obtain ⟨rfl, rfl⟩ := hmade
  obtain rfl := makeFolders_fst hm
  refine ⟨file?_freshName _ _, ?_⟩
  have hlength := length_lt_length_freshName f.base (d.makeFolders (startOf f) f.folder).2
  have htarget := follow?_base d f
  rcases f.names.getLast?.eq_none_or_eq_some with hl | ⟨last, hl⟩
  · rw [hl] at htarget
    rw [← Option.some.inj htarget]
    simp
  · rw [hl] at htarget
    rw [← Option.some.inj htarget]
    have hbase : f.base = last := by rw [FileName.base, hl, Option.getD_some]
    refine step_ne_concat ?_ ?_
    · rintro heq
      rw [heq, hbase] at hlength
      omega
    · intro heq
      rw [heq] at hlength
      have : "..".length = 2 := by decide
      omega

/-- Whether a temporary file can be made and stays behind: a step before it is closed is refused, and
so is closing it. -/
def strands (refused : WriteStep → Bool) : Bool :=
  !refused .create && (refused .write || refused .flush || refused .sync) && refused .close

/-- A write that is given up leaves its temporary file if it cannot close it. -/
theorem file?_giveUp (hnew : d.file? temporary = none) :
    ((d.put temporary content).giveUp refused temporary).directory.file? =
      if refused .close then Function.update d.file? temporary (some content) else d.file? := by
  rw [giveUp]
  cases refused .close with
  | true => exact file?_put_eq
  | false => exact file?_erase_put hnew

theorem replaceAt_of_strands (hnew : d.file? temporary = none) (hs : strands refused = true)
    (target : Place) (text : String) :
    (d.replaceAt refused temporary target text).done = false ∧
      ∃ content, (d.replaceAt refused temporary target text).directory.file? =
        Function.update d.file? temporary (some content) := by
  obtain ⟨⟨hcreate, hstep⟩, hclose⟩ := by simpa [strands] using hs
  rw [replaceAt, if_neg (by simp [hcreate])]
  by_cases hearly : refused .write = true ∨ refused .flush = true
  · rw [if_pos (by simpa using hearly)]
    exact ⟨rfl, [], by rw [file?_giveUp hnew, if_pos hclose]⟩
  · have hsync : refused .sync = true := by tauto
    rw [if_neg (by simpa using hearly)]
    simp only [hsync, if_true]
    exact ⟨rfl, bytesOf text, by rw [file?_giveUp hnew, if_pos hclose]⟩

theorem replaceAt_of_not_strands (hnew : d.file? temporary = none) (hs : strands refused = false)
    (target : Place) (text : String) :
    (d.replaceAt refused temporary target text).directory.file? =
      if (d.replaceAt refused temporary target text).done then
        Function.update d.file? target (some (bytesOf text))
      else d.file? := by
  cases hcreate : refused .create with
  | true => simp [replaceAt, hcreate]
  | false =>
    -- Either no step up to closing is refused, or closing is not.
    rw [replaceAt, if_neg (by simp [hcreate])]
    by_cases hearly : (refused .write || refused .flush) = true
    · have hclose : refused .close = false := by simp_all [strands]
      rw [if_pos hearly]
      simp only [file?_giveUp hnew, hclose]
      rfl
    · rw [if_neg hearly]
      cases hsync : refused .sync with
      | true =>
        have hclose : refused .close = false := by simp_all [strands]
        simp only [if_true, file?_giveUp hnew, hclose]
        rfl
      | false =>
        by_cases hlate : (refused .close || refused .replace || d.isFolder target) = true
        · simp only [hlate, if_true]
          exact file?_erase_put hnew
        · simp only [hlate]
          simp only [Bool.false_eq_true, if_false, if_true]
          rw [file?_put_eq, file?_erase_put hnew]

theorem forall_refused_iff : (∀ step, refused step = false) ↔
    refused .create = false ∧ (refused .write = false ∧ refused .flush = false) ∧
      refused .sync = false ∧ refused .close = false ∧ refused .replace = false := by
  refine ⟨fun h => ⟨h _, ⟨h _, h _⟩, h _, h _, h _⟩, ?_⟩
  rintro ⟨hcreate, ⟨hwrite, hflush⟩, hsync, hclose, hreplace⟩ step
  cases step <;> assumption

/-- A write with a temporary file is done exactly when no step is refused and the target is no folder. -/
theorem done_replaceAt_iff : (d.replaceAt refused temporary target text).done = true ↔
    (∀ step, refused step = false) ∧ d.isFolder target = false := by
  rw [forall_refused_iff, replaceAt]
  split
  case isTrue hcreate => simp [hcreate]
  case isFalse hcreate =>
    split
    case isTrue hearly =>
      have hnot : ¬ (refused .write = false ∧ refused .flush = false) := by
        rintro ⟨hwrite, hflush⟩
        simp [hwrite, hflush] at hearly
      simp [giveUp, hnot]
    case isFalse hearly =>
      have hboth : refused .write = false ∧ refused .flush = false := by simpa using hearly
      cases hsync : refused .sync with
      | true => simp [giveUp, hboth]
      | false =>
        by_cases hlate : (refused .close || refused .replace || d.isFolder target) = true
        · have hnot : ¬ ((refused .close = false ∧ refused .replace = false) ∧
              d.isFolder target = false) := by
            rintro ⟨⟨hclose, hreplace⟩, hfolder⟩
            simp [hclose, hreplace, hfolder] at hlate
          simp only [hlate, if_true, Bool.false_eq_true, if_false]
          tauto
        · have hnone : (refused .close = false ∧ refused .replace = false) ∧
              d.isFolder target = false := by simpa using hlate
          simp [hcreate, hboth, hnone]

end Directory

/-! ## Writes and their runs -/

/-- A write of a text to a file, with the steps that the system refuses. -/
structure Write where
  file : FileName
  text : String
  refused : WriteStep → Bool

namespace Write

open Directory

variable {w : Write} {d : Directory}

def run (w : Write) (d : Directory) : WriteResult := d.replace w.refused w.file w.text

/-- A write leaves either the text in its target and everything else as it was, when it is done, or
everything as it was, when it is not. -/
def IsWhole (w : Write) (d : Directory) : Prop :=
  (w.run d).directory.file? =
    if (w.run d).done then Function.update d.file? (placeOf w.file) (some (bytesOf w.text))
    else d.file?

/-- A write gets to make its temporary file and not to close it, after a step that is refused. -/
def Strands (w : Write) (d : Directory) : Prop :=
  (d.stage? w.file).isSome ∧ strands w.refused = true

/-- A write that leaves its temporary file behind is not done, and nothing else is changed. -/
theorem Strands.leaves (h : w.Strands d) :
    (w.run d).done = false ∧
      ∃ temporary content, d.file? temporary = none ∧ temporary ≠ placeOf w.file ∧
        (w.run d).directory.file? = Function.update d.file? temporary (some content) := by
  obtain ⟨⟨made, temporary⟩, hstage⟩ := Option.isSome_iff_exists.1 h.1
  obtain ⟨hnew, hne⟩ := temporary_of_stage? hstage
  have hfiles := file?_of_stage? hstage
  obtain ⟨hdone, content, hleft⟩ :=
    replaceAt_of_strands hnew h.2 (placeOf w.file) w.text
  rw [run, replace_of_stage? hstage]
  exact ⟨hdone, temporary, content, (congrFun hfiles temporary).symm.trans hnew, hne.symm,
    by rw [hleft, hfiles]⟩

theorem isWhole_of_not_strands (h : ¬ w.Strands d) : w.IsWhole d := by
  rw [IsWhole, run]
  rcases hstage : d.stage? w.file with _ | ⟨made, temporary⟩
  · obtain ⟨hdone, hfiles⟩ := replace_of_stage?_eq_none w.text w.refused hstage
    rw [hdone, hfiles]
    rfl
  · have hs : strands w.refused = false := by simpa [Strands, hstage] using h
    rw [replace_of_stage? hstage, ← file?_of_stage? hstage]
    exact replaceAt_of_not_strands (temporary_of_stage? hstage).1 hs _ _

/-- A write is all or nothing if and only if its temporary file is not left behind. -/
theorem isWhole_iff : w.IsWhole d ↔ ¬ w.Strands d := by
  refine ⟨fun hw hs => ?_, isWhole_of_not_strands⟩
  obtain ⟨hdone, temporary, content, hnew, -, hfiles⟩ := hs.leaves
  rw [IsWhole, hdone, hfiles] at hw
  have := congrFun hw temporary
  simp [hnew] at this

/-- A write is done exactly when the system refuses none of its steps and there is room for it: a folder
that its temporary file can be in, and no folder in the place of its target. -/
theorem done_run_iff : (w.run d).done = true ↔
    (∀ step, w.refused step = false) ∧
      ∃ made temporary, d.stage? w.file = some (made, temporary) ∧
        made.isFolder (placeOf w.file) = false := by
  rw [run]
  rcases hstage : d.stage? w.file with _ | ⟨made, temporary⟩
  · rw [(replace_of_stage?_eq_none w.text w.refused hstage).1]
    simp
  · rw [replace_of_stage? hstage, done_replaceAt_iff]
    simp

/-- The writes of a run, each with the directory that it meets. -/
def steps : List Write → Directory → List (Write × Directory)
  | [], _ => []
  | w :: rest, d => (w, d) :: steps rest (w.run d).directory

/-- The directory after a run of writes. -/
def runAll : List Write → Directory → Directory
  | [], d => d
  | w :: rest, d => runAll rest (w.run d).directory

/-- The files that are there when the writes that are done have put their texts into their targets, one
after the other, and nothing else has happened. -/
def written (files : Place → Option (List UInt8)) (steps : List (Write × Directory)) :
    Place → Option (List UInt8) :=
  steps.foldl (fun files step => if (step.1.run step.2).done then
    Function.update files (placeOf step.1.file) (some (bytesOf step.1.text)) else files) files

theorem file?_runAll {writes : List Write} (h : ∀ step ∈ steps writes d, step.1.IsWhole step.2) :
    (runAll writes d).file? = written d.file? (steps writes d) := by
  induction writes generalizing d with
  | nil => rfl
  | cons w rest ih =>
    have hw : w.IsWhole d := h (w, d) (List.mem_cons_self ..)
    have hrest := ih fun step hs => h step (List.mem_cons_of_mem _ hs)
    rw [runAll, hrest, hw]
    rfl

/-- Any number of writes, one after the other, of which the system refuses any steps: each of them puts
its text into its target and changes nothing else, when it is done, and changes nothing, when it is
not, if and only if none of them leaves its temporary file behind. Then the files after the run are
those before it with the texts of the writes that are done, which are the ones that there is room for
and of which no step is refused. A write that leaves its temporary file behind is not done, and one new
file is its only effect. -/
theorem runAll_isWhole (writes : List Write) (d : Directory) :
    ((∀ step ∈ steps writes d, step.1.IsWhole step.2) ↔
        ∀ step ∈ steps writes d, ¬ step.1.Strands step.2) ∧
      ((∀ step ∈ steps writes d, ¬ step.1.Strands step.2) →
        (runAll writes d).file? = written d.file? (steps writes d)) ∧
      (∀ step ∈ steps writes d, (step.1.run step.2).done = true ↔
        (∀ s, step.1.refused s = false) ∧ ∃ made temporary,
          step.2.stage? step.1.file = some (made, temporary) ∧
            made.isFolder (placeOf step.1.file) = false) ∧
      ∀ step ∈ steps writes d, step.1.Strands step.2 → (step.1.run step.2).done = false ∧
        ∃ temporary content, step.2.file? temporary = none ∧ temporary ≠ placeOf step.1.file ∧
          (step.1.run step.2).directory.file? =
            Function.update step.2.file? temporary (some content) := by
  refine ⟨forall₂_congr fun step _ => isWhole_iff, fun h => file?_runAll fun step hs => ?_,
    fun step _ => done_run_iff, fun step _ hs => hs.leaves⟩
  exact isWhole_of_not_strands (h step hs)

/-- A file that is written twice, where the system refuses to put the second text into its place. -/
def twice : List Write :=
  [⟨.ofText "ir.json", "first", fun _ => false⟩, ⟨.ofText "ir.json", "second", (· = .replace)⟩]

/-- A write to a full disk, where the buffer can be flushed neither before closing the file nor by it. -/
def full : Write := ⟨.ofText "ir.json", "new", fun step => step = .flush || step = .close⟩

theorem runAll_isWhole_full :
    (∀ step ∈ steps twice .empty, ¬ step.1.Strands step.2) ∧
      (runAll twice .empty).file? = written Directory.empty.file? (steps twice .empty) ∧
      full.Strands .empty ∧ (full.run .empty).done = false ∧
      ∃ temporary content, Directory.empty.file? temporary = none ∧ temporary ≠ ["ir.json"] ∧
        (full.run .empty).directory.file? =
          Function.update Directory.empty.file? temporary (some content) := by
  have htwice : ∀ step ∈ steps twice .empty, ¬ step.1.Strands step.2 := by
    simp [twice, steps, Strands, strands]
  have hfull : full.Strands .empty := ⟨by decide +kernel, by decide⟩
  have hplace : placeOf full.file = ["ir.json"] := by decide +kernel
  have hleft := (runAll_isWhole [full] .empty).2.2.2 (full, .empty) (by simp [steps]) hfull
  rw [hplace] at hleft
  exact ⟨htwice, (runAll_isWhole twice .empty).2.1 htwice, hfull, hleft⟩

end Write

end ApiContract
