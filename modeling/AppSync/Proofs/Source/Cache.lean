import Mathlib.Data.List.TakeWhile
import AppSync.Proofs.Source.Key
import AppSync.Source.Returned

/-! A cache that stores what its sources resolve to answers every lookup as if it were not there. -/

namespace AppSync

/-- The output type of a source by itself; a source without a writable key has none. -/
def Source.lookup (source : Source) : Except LookupFault ResolvedType :=
  match source.unwritable? with
  | some complaint => .error (.unwritable complaint)
  | none => source.resolve.mapError .noArguments

/-- The written return type of a source by itself; only an undeclared one is looked up. -/
def Source.returnedAlone (source : Source) (declared : Option String) :
    Except LookupFault String :=
  match source.unwrap with
  | none => .ok voidText
  | some actual =>
    match declaration? declared with
    | some name => .ok (actual.applyDeclared name).text
    | none => actual.lookup.map ResolvedType.text

namespace Source

/-- The source that is looked up for a return type; a declared name replaces the lookup. -/
def lookedUp? (source : Source) (declared : Option String) : Option Source :=
  match declaration? declared with
  | some _ => none
  | none => source.unwrap

/-- A return type by itself needs no cache, unless a source without a writable key is looked up. -/
theorem returnedAlone_eq (source : Source) (declared : Option String) :
    source.returnedAlone declared =
      match (source.lookedUp? declared).bind unwritable? with
      | some complaint => .error (.unwritable complaint)
      | none => (source.returnText declared).mapError .noArguments := by
  unfold returnedAlone lookedUp? returnText
  -- A source that stands for nothing and a declared name both need no lookup.
  cases source.unwrap with
  | none => cases declaration? declared <;> rfl
  | some actual =>
    cases declaration? declared with
    | some name => rfl
    | none =>
      simp only [Option.bind_some, lookup]
      cases actual.unwritable? with
      | some complaint => rfl
      | none => cases actual.resolve <;> rfl

mutual
/-- The texts in a source type. -/
def texts : Source → List String
  | ⟨name, arguments, _, _, _, _, _, override⟩ => name :: itemTexts arguments ++ override.toList

/-- The texts in several source types. -/
def itemTexts : List Source → List String
  | [] => []
  | source :: rest => texts source ++ itemTexts rest
end

/-- An encoding has no complaint about a text without halves of characters. -/
theorem unencodableHalves?_eq_none {text : String} (whole : Text.hasHalves text = false) :
    Text.unencodableHalves? text = none := by
  -- No character is left over by those that the encoding has.
  have none_left : text.toList.dropWhile (fun c => !Text.carriesHalf c) = [] := by
    rw [List.dropWhile_eq_nil_iff]
    simpa [Text.hasHalves] using whole
  simp [Text.unencodableHalves?, Text.unencodable?, none_left]

mutual
/-- A source without halves of characters has a key that can be written. -/
theorem unwritable?_eq_none : ∀ {source : Source},
    (∀ text ∈ source.texts, Text.hasHalves text = false) → source.unwritable? = none
  | ⟨name, arguments, _, _, _, _, _, override⟩, whole => by
    simp only [texts, List.cons_append, List.mem_cons, List.mem_append, Option.mem_toList] at whole
    have items := unwritableItem?_eq_none fun text member => whole text (.inr (.inl member))
    rw [unwritable?, unencodableHalves?_eq_none (whole name (.inl rfl)), items]
    cases override with
    | none => rfl
    | some text => exact unencodableHalves?_eq_none (whole text (.inr (.inr rfl)))

/-- Sources without halves of characters have parts of keys that can be written. -/
theorem unwritableItem?_eq_none : ∀ {arguments : List Source},
    (∀ text ∈ itemTexts arguments, Text.hasHalves text = false) →
    unwritableItem? arguments = none
  | [], _ => rfl
  | source :: rest, whole => by
    simp only [itemTexts, List.mem_append] at whole
    rw [unwritableItem?, unwritable?_eq_none fun text member => whole text (.inl member)]
    exact unwritableItem?_eq_none fun text member => whole text (.inr member)
end

/-- The texts of a type argument are among those of all arguments. -/
theorem texts_mem_itemTexts {arguments : List Source} {argument : Source}
    (member : argument ∈ arguments) {text : String} (inside : text ∈ argument.texts) :
    text ∈ itemTexts arguments := by
  -- The texts of the arguments stand one behind the other.
  induction arguments with
  | nil => cases member
  | cons first rest ih =>
    rw [itemTexts, List.mem_append]
    rcases List.mem_cons.mp member with rfl | member
    · exact .inl inside
    · exact .inr (ih member)

/-- The texts of an argument are among those of the source. -/
theorem texts_of_argument {source argument : Source} (member : argument ∈ source.arguments)
    {text : String} (inside : text ∈ argument.texts) : text ∈ source.texts := by
  have found := texts_mem_itemTexts member inside
  cases source
  simp only [texts, List.cons_append, List.mem_cons, List.mem_append]
  exact .inr (.inl found)

/-- The texts of a source that is looked up are among those of the source returned. -/
theorem texts_of_lookedUp? {source actual : Source} {declared : Option String}
    (located : source.lookedUp? declared = some actual) {text : String}
    (inside : text ∈ actual.texts) : text ∈ source.texts := by
  unfold lookedUp? at located
  cases named : declaration? declared with
  | some name => simp [named] at located
  | none =>
    simp only [named, unwrap] at located
    -- What is unwrapped is the last argument of the source, or the source.
    split at located
    · cases located
    · rename_i found awaited
      split at located
      · cases located
      · cases located
        split at awaited
        · exact texts_of_argument (List.mem_of_getLast? awaited) inside
        · cases awaited
          exact inside

end Source

namespace TypeCache

/-- Every entry is stored under the key of a source that resolves to it. -/
def Faithful (cache : TypeCache) : Prop :=
  ∀ entry ∈ cache.entries, ∃ source : Source,
    entry.1 = source.key ∧ source.resolve = .ok entry.2

/-- A cache without entries stores nothing wrong. -/
theorem faithful_empty : Faithful {} := by
  simp [Faithful]

/-- What a faithful cache stores for a source is what the source resolves to. -/
theorem Faithful.resolve_of_find? {cache : TypeCache} (faithful : cache.Faithful)
    {source : Source} {resolved : ResolvedType} (found : cache.find? source = some resolved) :
    source.resolve = .ok resolved := by
  -- The entry was stored for a source with the same key, which is the same source.
  unfold find? at found
  obtain ⟨entry, located, rfl⟩ := Option.map_eq_some_iff.mp found
  obtain ⟨stored, key, answer⟩ := faithful entry (List.mem_of_find?_eq_some located)
  have same : entry.1 = source.key := by simpa using List.find?_some located
  rw [Source.eq_of_key_eq (key.symm.trans same)] at answer
  exact answer

/-- A faithful cache answers a lookup as the source does by itself. -/
theorem Faithful.resolve_eq {cache : TypeCache} (faithful : cache.Faithful) (source : Source) :
    (cache.resolve source).1 = source.lookup := by
  unfold resolve Source.lookup
  cases source.unwritable? with
  | some complaint => rfl
  | none =>
    cases found : cache.find? source with
    | some resolved =>
      -- A hit answers with an entry, and entries are right.
      simp [faithful.resolve_of_find? found, Except.mapError]
    | none =>
      unfold resolveNew
      cases source.resolve <;> rfl

/-- A lookup leaves a faithful cache faithful. -/
theorem Faithful.resolve {cache : TypeCache} (faithful : cache.Faithful) (source : Source) :
    (cache.resolve source).2.Faithful := by
  unfold TypeCache.resolve
  -- Only a miss whose source resolves adds an entry.
  cases source.unwritable? with
  | some complaint => exact faithful
  | none =>
    cases cache.find? source with
    | some resolved => exact faithful
    | none =>
      unfold resolveNew
      cases resolved : source.resolve with
      | error error => exact faithful
      | ok type =>
        -- The only new entry is the one just resolved.
        intro entry member
        rcases List.mem_append.mp member with member | member
        · exact faithful entry member
        · rw [List.mem_singleton.mp member]
          exact ⟨source, rfl, resolved⟩

/-- A return type is the same through a faithful cache. -/
theorem Faithful.returned_eq {cache : TypeCache} (faithful : cache.Faithful) (source : Source)
    (declared : Option String) :
    (source.returned cache declared).1 = source.returnedAlone declared := by
  unfold Source.returned Source.returnedAlone
  -- The lookup is the only part that goes through the cache.
  cases source.unwrap with
  | none => rfl
  | some actual =>
    cases Source.declaration? declared with
    | some name => rfl
    | none => simp only [faithful.resolve_eq]

/-- Finding a return type leaves a faithful cache faithful. -/
theorem Faithful.returned {cache : TypeCache} (faithful : cache.Faithful) (source : Source)
    (declared : Option String) : (source.returned cache declared).2.Faithful := by
  unfold Source.returned
  cases source.unwrap with
  | none => exact faithful
  | some actual =>
    cases Source.declaration? declared with
    | some name => exact faithful
    | none => exact faithful.resolve actual

end TypeCache

end AppSync
