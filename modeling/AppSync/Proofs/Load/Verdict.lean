import Mathlib.Data.List.ReduceOption
import AppSync.Diagnostic

/-! Verdicts on the entries of a list, and the choice among those that are accepted. -/

namespace AppSync

/-- What becomes of an entry: a warning that leaves it out, or an item with its notes. -/
inductive Verdict (α : Type) where
  | refused (warning : Diagnostic)
  /-- The last warning is given where an earlier item has the same key. -/
  | accepted (item : α) (notes : List Diagnostic) (duplicate : Diagnostic)

/-- The first items with their keys among entries, where some keys are taken before. -/
def firsts {α κ : Type} [DecidableEq κ] (key : α → κ) (taken : List κ) :
    List (Option α) → List (Option α)
  | [] => []
  | found :: rest =>
    found.filter (fun item => key item ∉ taken) ::
      firsts key ((found.map key).toList ++ taken) rest

/-- The item accepted at an index, unless an item with its key is accepted earlier. -/
def keptAt {α κ : Type} [DecidableEq κ] (key : α → κ) (found : List (Option α)) (index : Nat) :
    Option α :=
  found[index]?.join.filter fun item => key item ∉ (found.take index).reduceOption.map key

/-- An item is accepted at an index, but an item with its key is kept earlier. -/
def RepeatsAt {α κ : Type} [DecidableEq κ] (key : α → κ) (found : List (Option α)) (index : Nat)
    (item : α) : Prop :=
  found[index]?.join = some item ∧
    ∃ earlier < index, ∃ first, keptAt key found earlier = some first ∧ key first = key item

/-- The notes on one entry: a warning at its place if it is left out, and no warning otherwise. -/
structure EntryNotes (code : DiagnosticCode) (place : String) (isKept : Bool)
    (notes : List Diagnostic) : Prop where
  located : ∀ note ∈ notes, note.location = some place
  noted : ∀ note ∈ notes, note.severity = .info → note.code = .returnTypeFallback
  warned : ∀ note ∈ notes, note.severity ≠ .info → note.severity = .warning ∧ note.code = code
  warnings : (notes.filter fun note => note.severity ≠ .info).length = if isKept then 0 else 1

section firsts

variable {α κ : Type} [DecidableEq κ] {key : α → κ}

/-- It only matters which keys are taken. -/
theorem firsts_congr {taken others : List κ} (same : ∀ k, k ∈ taken ↔ k ∈ others)
    (found : List (Option α)) : firsts key taken found = firsts key others found := by
  -- The keys of an entry join those taken before on both sides.
  induction found generalizing taken others with
  | nil => rfl
  | cons first rest ih =>
    unfold firsts
    simp only [same]
    refine congrArg _ (ih fun k => ?_)
    rw [List.mem_append, List.mem_append, same]

/-- An entry is decided on by the keys taken before all and those of the earlier entries. -/
theorem getElem?_firsts (taken : List κ) (found : List (Option α)) (index : Nat) :
    (firsts key taken found)[index]? =
      found[index]?.map fun entry => entry.filter fun item =>
        key item ∉ (found.take index).reduceOption.map key ++ taken := by
  -- Each earlier entry moves its key to those taken before all.
  induction found generalizing taken index with
  | nil => rfl
  | cons first rest ih =>
    cases index with
    | zero => simp [firsts]
    | succ index =>
      unfold firsts
      rw [List.getElem?_cons_succ, List.getElem?_cons_succ, ih, List.take_succ_cons]
      refine congrArg (rest[index]?.map ·) (funext fun entry => congrArg (entry.filter ·) ?_)
      funext item
      cases first <;> simp [or_comm, or_assoc]

/-- The first items are those kept at their indices. -/
theorem firsts_eq_map (found : List (Option α)) :
    firsts key [] found = (List.range found.length).map (keptAt key found) := by
  -- At each index the keys taken are those of the entries before it.
  refine List.ext_getElem? fun index => ?_
  rw [getElem?_firsts, List.getElem?_map, List.append_nil]
  rcases Nat.lt_or_ge index found.length with inside | outside
  · simp [keptAt, inside]
  · simp [outside]

/-- An entry that is not accepted, or whose key is taken, is left out and takes no other key. -/
theorem firsts_cons {taken : List κ} {extra : Option α}
    (superfluous : ∀ item ∈ extra, key item ∈ taken) (found : List (Option α)) :
    firsts key taken (extra :: found) = none :: firsts key taken found := by
  rw [firsts]
  cases extra with
  | none => rfl
  | some item =>
    have member := superfluous item rfl
    -- Its key is taken already, so that taking it again changes nothing.
    have nothing : firsts key (key item :: taken) found = firsts key taken found := by
      refine firsts_congr (fun k => ?_) found
      rw [List.mem_cons, or_iff_right_of_imp]
      rintro rfl
      exact member
    simp only [Option.map_some, Option.toList_some, List.singleton_append, nothing]
    simp [Option.filter, member]

/-- Such an entry changes nothing for the others, wherever it stands. -/
theorem firsts_append_cons {taken : List κ} {before : List (Option α)} {extra : Option α}
    (superfluous : ∀ item ∈ extra, key item ∈ before.reduceOption.map key ++ taken)
    (after : List (Option α)) :
    (firsts key taken (before ++ extra :: after)).reduceOption =
      (firsts key taken (before ++ after)).reduceOption := by
  -- The entries before it are decided on as without it.
  induction before generalizing taken with
  | nil =>
    rw [List.nil_append, List.nil_append, firsts_cons (by simpa using superfluous)]
    exact List.reduceOption_cons_of_none _
  | cons first rest ih =>
    -- What made the entry superfluous is still taken one entry later.
    have remaining (item : α) (member : item ∈ extra) :
        key item ∈ rest.reduceOption.map key ++ ((first.map key).toList ++ taken) := by
      have earlier := superfluous item member
      cases first <;> simpa [or_comm, or_assoc, or_left_comm] using earlier
    have later := ih remaining
    rw [List.cons_append, List.cons_append]
    unfold firsts
    cases first.filter fun item => key item ∉ taken with
    | none => simpa [List.reduceOption_cons_of_none] using later
    | some item => simpa [List.reduceOption_cons_of_some] using later

/-- An item is kept exactly if it is accepted and its key is not taken before. -/
theorem keptAt_eq_some {found : List (Option α)} {index : Nat} {item : α} :
    keptAt key found index = some item ↔ found[index]?.join = some item ∧
      key item ∉ (found.take index).reduceOption.map key := by
  rw [keptAt, Option.filter_eq_some_iff, decide_eq_true_iff]

/-- Where a key is taken before an index, an earlier item with the key is kept. -/
theorem exists_keptAt_of_taken {found : List (Option α)} {index : Nat} {k : κ}
    (taken : k ∈ (found.take index).reduceOption.map key) :
    ∃ earlier < index, ∃ first, keptAt key found earlier = some first ∧ key first = k := by
  -- The item that takes the key is kept, or the key is taken before that item already.
  induction index using Nat.strongRecOn with
  | ind index ih =>
    obtain ⟨item, member, rfl⟩ := List.mem_map.mp taken
    obtain ⟨place, stands⟩ := List.mem_iff_getElem?.mp (List.reduceOption_mem_iff.mp member)
    obtain ⟨before, accepted⟩ : place < index ∧ found[place]? = some (some item) := by
      simpa [List.getElem?_take] using stands
    by_cases again : key item ∈ (found.take place).reduceOption.map key
    · obtain ⟨earlier, order, kept⟩ := ih place before again
      exact ⟨earlier, Nat.lt_trans order before, kept⟩
    · exact ⟨place, before, item, keptAt_eq_some.mpr ⟨by rw [accepted]; rfl, again⟩, rfl⟩

/-- An accepted item is kept, or repeats an earlier one that is. -/
theorem accepted_iff {found : List (Option α)} {index : Nat} {item : α} :
    found[index]?.join = some item ↔
      keptAt key found index = some item ∨ RepeatsAt key found index item := by
  constructor
  · intro accepted
    by_cases taken : key item ∈ (found.take index).reduceOption.map key
    · exact .inr ⟨accepted, exists_keptAt_of_taken taken⟩
    · exact .inl (keptAt_eq_some.mpr ⟨accepted, taken⟩)
  · rintro (kept | ⟨accepted, -⟩)
    · exact (keptAt_eq_some.mp kept).1
    · exact accepted

/-- The first items are among those of the entries. -/
theorem mem_of_mem_firsts {taken : List κ} {found : List (Option α)} {item : α}
    (member : some item ∈ firsts key taken found) : some item ∈ found := by
  induction found generalizing taken with
  | nil => cases member
  | cons first rest ih =>
    rcases List.mem_cons.mp member with same | later
    · exact List.mem_cons.mpr (.inl (Option.filter_eq_some_iff.mp same.symm).1.symm)
    · exact List.mem_cons_of_mem first (ih later)

/-- The first items have keys of their own, none of them taken before. -/
theorem firsts_distinct (taken : List κ) (found : List (Option α)) :
    ((firsts key taken found).reduceOption.map key).Nodup ∧
      ∀ item, some item ∈ firsts key taken found → key item ∉ taken := by
  -- Behind an item that is kept its key is taken as well.
  induction found generalizing taken with
  | nil => exact ⟨List.nodup_nil, nofun⟩
  | cons first rest ih =>
    obtain ⟨distinct, apart⟩ := ih ((first.map key).toList ++ taken)
    have untaken (item : α)
        (later : some item ∈ firsts key ((first.map key).toList ++ taken) rest) :
        key item ∉ taken := fun member => apart item later (List.mem_append_right _ member)
    unfold firsts
    cases kept : first.filter fun item => key item ∉ taken with
    | none =>
      refine ⟨by rwa [List.reduceOption_cons_of_none], fun item member => ?_⟩
      rcases List.mem_cons.mp member with absent | later
      · cases absent
      · exact untaken item later
    | some item =>
      obtain ⟨rfl, fresh⟩ := Option.filter_eq_some_iff.mp kept
      refine ⟨?_, fun other member => ?_⟩
      · rw [List.reduceOption_cons_of_some, List.map_cons, List.nodup_cons]
        refine ⟨fun member => ?_, distinct⟩
        obtain ⟨other, later, same⟩ := List.mem_map.mp member
        refine apart other (List.reduceOption_mem_iff.mp later) ?_
        simp [same]
      · rcases List.mem_cons.mp member with same | later
        · cases same
          simpa using fresh
        · exact untaken other later

end firsts

namespace Verdict

variable {α κ : Type}

/-- The item of an entry that is accepted. -/
def item? : Verdict α → Option α
  | refused _ => none
  | accepted item .. => some item

/-- The notes on an entry that is accepted. -/
def notes : Verdict α → List Diagnostic
  | refused _ => []
  | accepted _ notes _ => notes

/-- An item that is kept, and the notes on an entry, where some keys are taken before. -/
def outcome [DecidableEq κ] (key : α → κ) (taken : List κ) :
    Verdict α → Option α × List Diagnostic
  | refused warning => (none, [warning])
  | accepted item notes duplicate =>
    if key item ∈ taken then (none, notes ++ [duplicate]) else (some item, notes)

/-- The outcomes for entries, of which those that are kept take their keys. -/
def outcomes [DecidableEq κ] (key : α → κ) (taken : List κ) :
    List (Verdict α) → List (Option α × List Diagnostic)
  | [] => []
  | verdict :: rest =>
    let found := verdict.outcome key taken
    found :: outcomes key ((found.1.map key).toList ++ taken) rest

/-- The items that are kept among entries, and the notes on all. -/
def settle [DecidableEq κ] (key : α → κ) (taken : List κ) (verdicts : List (Verdict α)) :
    List α × List Diagnostic :=
  let found := outcomes key taken verdicts
  (found.filterMap Prod.fst, found.flatMap Prod.snd)

section outcomes

variable [DecidableEq κ] {key : α → κ}

/-- The item that is kept of an entry is the one accepted, unless its key is taken. -/
theorem fst_outcome (taken : List κ) (verdict : Verdict α) :
    (verdict.outcome key taken).1 = verdict.item?.filter fun item => key item ∉ taken := by
  -- A refused entry has no item, and an accepted one is kept unless its key is taken.
  cases verdict with
  | refused warning => rfl
  | accepted item notes duplicate =>
    by_cases member : key item ∈ taken
    · simp [outcome, item?, Option.filter, member]
    · simp [outcome, item?, Option.filter, member]

/-- The items that are kept are the first ones with their keys. -/
theorem map_fst_outcomes (key : α → κ) {taken others : List κ} (same : ∀ k, k ∈ taken ↔ k ∈ others)
    (verdicts : List (Verdict α)) :
    (outcomes key taken verdicts).map Prod.fst = firsts key others (verdicts.map item?) := by
  -- An item whose key is taken already adds nothing to the keys that are taken.
  induction verdicts generalizing taken others with
  | nil => rfl
  | cons verdict rest ih =>
    unfold outcomes firsts
    simp only [List.map_cons, fst_outcome]
    simp only [same]
    refine congrArg _ (ih fun k => ?_)
    cases verdict.item? with
    | none => simp [same]
    | some item =>
      by_cases member : key item ∈ others
      · simp only [Option.filter, member]
        grind
      · simp [Option.filter, member, same]

/-- The diagnostics that a verdict may make are at the place of its entry. -/
def Noted (code : DiagnosticCode) (place : String) : Verdict α → Prop
  | refused warning =>
    warning.location = some place ∧ warning.severity = .warning ∧ warning.code = code
  | accepted _ notes duplicate =>
    (∀ note ∈ notes, note.location = some place ∧ note.severity = .info ∧
      note.code = .returnTypeFallback) ∧
    duplicate.location = some place ∧ duplicate.severity = .warning ∧ duplicate.code = code

/-- The notes that an entry ends with are those of one that is kept or left out. -/
theorem Noted.entryNotes {code : DiagnosticCode} {place : String} {verdict : Verdict α}
    (noted : verdict.Noted code place) (key : α → κ) (taken : List κ) :
    EntryNotes code place (verdict.outcome key taken).1.isSome
      (verdict.outcome key taken).2 := by
  cases verdict with
  | refused warning =>
    obtain ⟨location, severity, coded⟩ := noted
    constructor <;> simp [outcome, location, severity, coded]
  | accepted item notes duplicate =>
    obtain ⟨infos, location, severity, coded⟩ := noted
    -- The notes of an accepted item are no warnings.
    have silent : notes.filter (fun note => note.severity ≠ .info) = [] := by
      rw [List.filter_eq_nil_iff]
      intro note member
      simp [(infos note member).2.1]
    by_cases member : key item ∈ taken
    · -- A duplicate keeps its notes and gets a warning.
      simp only [outcome, member, if_true]
      constructor
      · grind
      · grind
      · grind
      · rw [List.filter_append, silent]
        simp [severity]
    · simp only [outcome, member, if_false]
      constructor
      · grind
      · grind
      · grind
      · rw [silent]
        rfl

/-- The notes on an accepted entry are at its place. -/
theorem Noted.location_of_mem_notes {code : DiagnosticCode} {place : String} {verdict : Verdict α}
    (noted : verdict.Noted code place) {note : Diagnostic} (member : note ∈ verdict.notes) :
    note.location = some place := by
  cases verdict with
  | refused warning => cases member
  | accepted item infos duplicate => exact (noted.1 note member).1

/-- Whether an entry is kept or left out, the notes on a fallback are those of its verdict. -/
theorem Noted.filter_outcome {code : DiagnosticCode} {place : String} {verdict : Verdict α}
    (noted : verdict.Noted code place) (apart : code ≠ .returnTypeFallback) (key : α → κ)
    (taken : List κ) :
    (verdict.outcome key taken).2.filter (fun note => note.code = .returnTypeFallback) =
      verdict.notes := by
  cases verdict with
  | refused warning =>
    obtain ⟨-, -, coded⟩ := noted
    simp [outcome, notes, coded, apart]
  | accepted item infos duplicate =>
    obtain ⟨coded, -, -, other⟩ := noted
    have all : infos.filter (fun note => note.code = .returnTypeFallback) = infos :=
      List.filter_eq_self.mpr fun note member => by simp [(coded note member).2.2]
    -- The warning about a duplicate is no note on a fallback.
    by_cases member : key item ∈ taken
    · simp [outcome, notes, member, all, other, apart]
    · simp [outcome, notes, member, all]

/-- Among all that is noted, the notes on a fallback are those of the verdicts. -/
theorem filter_settle (key : α → κ) (taken : List κ) {code : DiagnosticCode}
    {places : Nat → String} {verdicts : List (Verdict α)} (apart : code ≠ .returnTypeFallback)
    (noted : ∀ index (verdict : Verdict α), verdicts[index]? = some verdict →
      verdict.Noted code (places index)) :
    (settle key taken verdicts).2.filter (fun note => note.code = .returnTypeFallback) =
      verdicts.flatMap notes := by
  unfold settle
  -- Which keys are taken when an entry is reached makes no difference to its notes.
  induction verdicts generalizing taken places with
  | nil => rfl
  | cons verdict rest ih =>
    have first := (noted 0 verdict rfl).filter_outcome apart key taken
    have others := ih (((verdict.outcome key taken).1.map key).toList ++ taken)
      fun index verdict => noted (index + 1) verdict
    unfold outcomes
    simp only [List.flatMap_cons, List.filter_append, first]
    rw [others]

/-- The outcome at an index is that of the verdict there. -/
theorem getElem?_outcomes {taken : List κ} {verdicts : List (Verdict α)} {index : Nat}
    {found : Option α × List Diagnostic}
    (located : (outcomes key taken verdicts)[index]? = some found) :
    ∃ verdict others, verdicts[index]? = some verdict ∧ found = verdict.outcome key others := by
  -- The keys taken before differ from place to place, so that they stay general.
  induction verdicts generalizing taken index with
  | nil => cases located
  | cons verdict rest ih =>
    cases index with
    | zero => exact ⟨verdict, taken, rfl, (Option.some.inj located).symm⟩
    | succ index => exact ih located

/-- Each entry is either kept or warned about, once. -/
theorem warnings_add_kept (key : α → κ) (taken : List κ) {code : DiagnosticCode}
    {places : Nat → String} {verdicts : List (Verdict α)}
    (noted : ∀ index (verdict : Verdict α), verdicts[index]? = some verdict →
      verdict.Noted code (places index)) :
    ((settle key taken verdicts).2.filter fun note => note.severity ≠ .info).length +
      (settle key taken verdicts).1.length = verdicts.length := by
  unfold settle
  -- An entry adds one warning or one item, and the others count by themselves.
  induction verdicts generalizing taken places with
  | nil => rfl
  | cons verdict rest ih =>
    have others := ih (((verdict.outcome key taken).1.map key).toList ++ taken)
      fun index verdict => noted (index + 1) verdict
    have first := ((noted 0 verdict rfl).entryNotes key taken).warnings
    unfold outcomes
    simp only [List.flatMap_cons, List.filter_append, List.length_append, first, List.length_cons]
    cases kept : (verdict.outcome key taken).1 with
    | none =>
      rw [kept] at others
      simp only [Option.isSome_none, List.filterMap_cons_none kept]
      simp only [Bool.false_eq_true, if_false] at others ⊢
      omega
    | some item =>
      rw [kept] at others
      simp only [Option.isSome_some, List.filterMap_cons_some kept, List.length_cons]
      simp only [if_true] at others ⊢
      omega

end outcomes

end Verdict

end AppSync
