import AppSync.Proofs.Yaml.Document
import AppSync.Yaml.Meaning

/-!
Giving the nodes of a YAML text their values: what stops it is a fault, or a scalar that has the tag
of a kind but does not spell a value of that kind.
-/

namespace AppSync.Yaml

variable {α : Type} {root node : Node} {failure : Failure}

namespace Node

/-- The nodes that a node consists of, itself among them. -/
inductive IsPart (root : Node) : Node → Prop where
  | whole : IsPart root root
  | item {number : Nat} {tag : String} {items : List Node} {mark : Mark} {item : Node}
    (outer : IsPart root (.sequence number tag items mark)) (member : item ∈ items) :
    IsPart root item
  | key {number : Nat} {tag : String} {entries : List (Node × Node)} {mark : Mark}
    {entry : Node × Node} (outer : IsPart root (.mapping number tag entries mark))
    (member : entry ∈ entries) : IsPart root entry.1
  | value {number : Nat} {tag : String} {entries : List (Node × Node)} {mark : Mark}
    {entry : Node × Node} (outer : IsPart root (.mapping number tag entries mark))
    (member : entry ∈ entries) : IsPart root entry.2

/-- The content of a node: its own, or that behind the key that stands for its mapping. -/
inductive Spells : Node → String → Prop where
  | scalar {tag content : String} {mark : Mark} : Spells (.scalar tag content mark) content
  | mapping {number : Nat} {tag content : String} {entries : List (Node × Node)} {mark : Mark}
    {entry : Node × Node} (found : entries.find? (fun entry => isValueKey entry.1) = some entry)
    (spelled : Spells entry.2 content) : Spells (.mapping number tag entries mark) content

end Node

/-- Why a node has no value: for a fault, or because a part of it does not spell its kind. -/
inductive Misspells (root : Node) : Failure → Prop where
  | fault (fault : Fault) : Misspells root (.fault fault)
  | scalar {part : Node} {kind : Kind} {content : String} {failure : Failure}
    (inside : root.IsPart part) (tagged : Kind.ofTag? part.tag = some kind)
    (spelled : part.Spells content) (failed : scalarValue kind part content = .error failure) :
    Misspells root failure

/-! ## Contents -/

/-- The content that is found is the one that a node spells, and without one there is a fault. -/
theorem contentOf_spells (fuel : Nat) (node : Node) :
    Ends node.Spells (Misspells root) (contentOf fuel node) := by
  -- A mapping with a default value stands for the content of that value.
  induction fuel generalizing node with
  | zero => exact .error (.fault _)
  | succ fuel ih =>
    unfold contentOf
    split
    · exact Node.Spells.scalar
    · split
      · rename_i found
        exact (ih _).imp fun content spelled => .mapping found spelled
      · exact .error (.fault _)
    · exact .error (.fault _)

/-! ## Keys and merged mappings -/

/-- A part of a node, or one that would stand for its mapping and does not as a key. -/
def Node.Serves (root node : Node) : Prop :=
  ∃ part, root.IsPart part ∧ (node = part ∨ node = asPlainKey part)

/-- The tag of a key that does not stand for its mapping. -/
theorem tag_asPlainKey (node : Node) : (asPlainKey node).tag = plainKeyTag node.tag := by
  cases node <;> rfl

/-- A key that does not stand for its mapping anyway is left as it is. -/
theorem asPlainKey_eq (other : node.tag ≠ Kind.value.tag) : asPlainKey node = node := by
  cases node <;> simp_all [asPlainKey, plainKeyTag, Node.tag]

/-- What serves as a key is a part, or has the tag of a text. -/
theorem Node.Serves.cases (serves : root.Serves node) :
    root.IsPart node ∨ node.tag = Kind.text.tag := by
  obtain ⟨part, inside, rfl | rfl⟩ := serves
  · exact .inl inside
  · by_cases special : part.tag = Kind.value.tag
    · exact .inr (by rw [tag_asPlainKey, plainKeyTag, if_pos special])
    · exact .inl (by rwa [asPlainKey_eq special])

/-- Entries whose keys serve as such and whose values are parts. -/
def AreEntries (root : Node) (entries : List (Node × Node)) : Prop :=
  ∀ entry ∈ entries, root.Serves entry.1 ∧ root.IsPart entry.2

/-- Groups of such entries make such entries. -/
theorem AreEntries.flatten {groups : List (List (Node × Node))}
    (each : ∀ group ∈ groups, AreEntries root group) : AreEntries root groups.flatten := by
  intro entry member
  obtain ⟨group, inside, member⟩ := List.mem_flatten.mp member
  exact each group inside entry member

/-- Groups of such entries, one for each item. -/
theorem AreEntries.mapM {items : List α} {compute : α → Except Failure (List (Node × Node))}
    (each : ∀ item ∈ items, Ends (AreEntries root) (Misspells root) (compute item)) :
    Ends (fun groups => ∀ group ∈ groups, AreEntries root group) (Misspells root)
      (items.mapM compute) :=
  Ends.mapM each

/-- Merging keeps to the parts of a node, and fails for a fault only. -/
theorem merged_entries (fuel : Nat) :
    (∀ outer entries, (∀ entry ∈ entries, root.IsPart entry.1 ∧ root.IsPart entry.2) →
      Ends (AreEntries root) (Misspells root) (merged outer fuel entries)) ∧
    ∀ outer value, root.IsPart value →
      Ends (AreEntries root) (Misspells root) (mergedValue outer fuel value) := by
  induction fuel with
  | zero =>
    refine ⟨fun outer entries parts entry member => ?_, fun _ _ _ _ member => nomatch member⟩
    exact ⟨⟨entry.1, (parts entry member).1, .inl rfl⟩, (parts entry member).2⟩
  | succ fuel ih =>
    obtain ⟨entriesMerge, valueMerges⟩ := ih
    have mappingMerges {number : Nat} {tag : String} {entries : List (Node × Node)} {mark : Mark}
        (part : root.IsPart (.mapping number tag entries mark)) :
        Ends (AreEntries root) (Misspells root) (merged mark fuel entries) :=
      entriesMerge mark entries fun entry member => ⟨.key part member, .value part member⟩
    refine ⟨fun outer entries parts => ?_, fun outer value part => ?_⟩
    · unfold merged
      refine (AreEntries.mapM fun entry member => ?_).bind fun front merges => ?_
      · exact valueMerges outer entry.2 (parts entry (List.mem_of_mem_filter member)).2
      -- The entries of its own come behind those that are merged.
      intro entry member
      rcases List.mem_append.mp member with inFront | own
      · exact AreEntries.flatten merges entry inFront
      · obtain ⟨written, inside, rfl⟩ := List.mem_map.mp own
        have both := parts written (List.mem_of_mem_filter inside)
        exact ⟨⟨written.1, both.1, .inr rfl⟩, both.2⟩
    · unfold mergedValue
      split
      · exact mappingMerges part
      · refine (AreEntries.mapM fun item member => ?_).bind fun groups merges => ?_
        · split
          · exact mappingMerges (.item part member)
          · exact fun _ member => nomatch member
          · exact .error (.fault _)
        · exact .flatten fun group member => merges group (List.mem_reverse.mp member)
      · exact fun _ member => nomatch member
      · exact .error (.fault _)

/-- The entries of a mapping that is a part are merged so. -/
theorem mapping_entries {number : Nat} {tag : String} {entries : List (Node × Node)} {mark : Mark}
    (part : root.IsPart (.mapping number tag entries mark)) (fuel : Nat) :
    Ends (AreEntries root) (Misspells root) (merged mark fuel entries) :=
  (merged_entries fuel).1 mark entries fun _ member => ⟨.key part member, .value part member⟩

/-! ## Values -/

/-- The failures that are met in giving a value have a reason. -/
def Blames (root : Node) (built : Built) : Prop :=
  ∀ failure ∈ built.failures, Misspells root failure.2

section Blames

variable {built : Built} {parts : List Built}

/-- Without a failure there is nothing to blame. -/
theorem Blames.nothing (value : Value) (again recurrent : List Nat) :
    Blames root ⟨value, [], again, recurrent⟩ :=
  fun _ member => nomatch member

/-- A single failure with its reason. -/
theorem Blames.fail (depth : Nat) (reason : Misspells root failure) :
    Blames root (.fail depth failure) := by
  intro other member
  cases List.mem_singleton.mp member
  exact reason

/-- The failures of a value are those of its parts. -/
theorem Blames.ofParts (value : Value) (each : ∀ part ∈ parts, Blames root part) :
    Blames root (.ofParts value parts) := by
  intro failure member
  obtain ⟨part, inside, member⟩ := List.mem_flatMap.mp member
  exact each part inside failure member

/-- A number leaves the failures. -/
theorem Blames.numbered (blames : Blames root built) (number : Nat) :
    Blames root (built.numbered number) := by
  unfold Built.numbered
  split
  · exact blames
  · exact blames

end Blames

/-- A node that is a part of a kind has a value of the kind, or does not spell one. -/
theorem scalarValue_ends {kind : Kind} (fuel : Nat)
    (known : root.IsPart node ∧ Kind.ofTag? node.tag = some kind ∨ kind = .text) :
    Ends (fun _ => True) (Misspells root)
      ((contentOf fuel node).bind (scalarValue kind node)) := by
  refine (contentOf_spells fuel node).bind fun content spelled => ?_
  refine .intro (fun _ _ => trivial) fun failure failed => ?_
  rcases known with ⟨part, tagged⟩ | rfl
  · exact .scalar part tagged spelled failed
  · -- Every content is a text.
    cases failed

/-- With some fuel, the failures of nodes, mappings and pairs have their reasons in a root. -/
structure BuildBlames (root : Node) (fuel : Nat) : Prop where
  node (depth : Nat) {node : Node} (serves : root.Serves node) :
    Blames root (build fuel depth node)
  mapping (make : Entries → Value) (depth : Nat) {node : Node} (part : root.IsPart node) :
    Blames root (buildMapping make fuel depth node)
  pairs (activity : Activity) (depth : Nat) {node : Node} (part : root.IsPart node) :
    Blames root (buildPairs activity fuel depth node)

namespace BuildBlames

variable {fuel : Nat}

/-- The failures of a part are those of its kind, or those of its own parts. -/
theorem part_succ (blames : BuildBlames root fuel) (depth : Nat) (part : root.IsPart node) :
    Blames root (build (fuel + 1) depth node) := by
  unfold build
  split
  · exact .nothing _ _ _
  · split
    · exact .fail _ (.fault _)
    · exact .fail _ (.fault _)
    · exact .fail _ (.fault _)
    · split
      · refine .numbered (.ofParts _ fun built member => ?_) _
        obtain ⟨item, inside, rfl⟩ := List.mem_map.mp member
        exact blames.node _ ⟨item, .item part inside, .inl rfl⟩
      · exact .fail _ (.fault _)
    · exact blames.mapping _ _ part
    · exact blames.mapping _ _ part
    · exact blames.pairs _ _ part
    · exact blames.pairs _ _ part
    · -- Every other kind is one of scalars.
      rename_i tagged
      have ends := scalarValue_ends (fuel + 1) (.inl ⟨part, tagged⟩)
      split
      · exact .nothing _ _ _
      · rename_i failed
        exact .fail _ (ends.of_error failed)

/-- A key that would stand for its mapping is built as a text, which it always spells. -/
theorem text_succ (depth : Nat) (text : node.tag = Kind.text.tag) :
    Blames root (build (fuel + 1) depth node) := by
  have tagged : Kind.ofTag? node.tag = some .text := by
    rw [text]
    decide
  -- Any content is a text, so that only a missing content fails.
  have ends : Ends (fun _ => True) (Misspells root)
      ((contentOf (fuel + 1) node).bind (scalarValue .text node)) :=
    scalarValue_ends _ (.inr rfl)
  unfold build
  split
  · exact .nothing _ _ _
  · simp only [tagged]
    split
    · exact .nothing _ _ _
    · rename_i failed
      exact .fail _ (ends.of_error failed)

/-- The failures of a mapping are those of its keys and values, or tell of a key that is none. -/
theorem mapping_succ (blames : BuildBlames root fuel) (make : Entries → Value) (depth : Nat)
    (part : root.IsPart node) : Blames root (buildMapping make (fuel + 1) depth node) := by
  unfold buildMapping
  split
  · rename_i number tag entries mark
    have merges := mapping_entries part (2 * (Node.mapping number tag entries mark).height)
    split
    · rename_i failed
      exact .fail _ (merges.of_error failed)
    · rename_i entries found
      refine .numbered (.ofParts _ fun built member => ?_) _
      obtain ⟨group, among, member⟩ := List.mem_flatMap.mp member
      obtain ⟨entry, inside, rfl⟩ := List.mem_map.mp among
      have both := merges.of_ok found entry inside
      dsimp only at member
      -- What can be a key has a value, and for what cannot there is a fault.
      split at member
      · rcases List.mem_cons.mp member with rfl | member
        · exact blames.node _ both.1
        · cases List.mem_singleton.mp member
          exact blames.node _ ⟨_, both.2, .inl rfl⟩
      · rcases List.mem_cons.mp member with rfl | member
        · exact blames.node _ both.1
        · cases List.mem_singleton.mp member
          exact .fail _ (.fault _)
  · exact .fail _ (.fault _)

/-- The failures of pairs are those of their keys and values, or tell of an item that is no pair. -/
theorem pairs_succ (blames : BuildBlames root fuel) (activity : Activity) (depth : Nat)
    (part : root.IsPart node) : Blames root (buildPairs activity (fuel + 1) depth node) := by
  -- An item is a mapping of one key, of which both parts are built.
  unfold buildPairs
  split
  · rename_i number tag items outer
    refine .numbered (.ofParts _ fun built member => ?_) _
    obtain ⟨item, inside, rfl⟩ := List.mem_map.mp member
    split
    · rename_i number tag key value mark
      have pair := Node.IsPart.item part inside
      have both := List.mem_singleton_self (key, value)
      refine .ofParts _ fun built member => ?_
      rcases List.mem_cons.mp member with rfl | member
      · exact blames.node _ ⟨key, .key pair both, .inl rfl⟩
      · cases List.mem_singleton.mp member
        exact blames.node _ ⟨value, .value pair both, .inl rfl⟩
    · exact .fail _ (.fault _)
    · exact .fail _ (.fault _)
  · exact .fail _ (.fault _)

end BuildBlames

/-- Whatever the fuel is, the failures that are met in giving values have their reasons. -/
theorem buildBlames (root : Node) (fuel : Nat) : BuildBlames root fuel := by
  -- Nodes, mappings and pairs build each other with less fuel; without any there is no failure.
  induction fuel with
  | zero =>
    exact ⟨fun _ _ _ => .nothing _ _ _, fun _ _ _ _ => .nothing _ _ _,
      fun _ _ _ _ => .nothing _ _ _⟩
  | succ fuel blames =>
    refine ⟨fun depth _ serves => ?_, fun make depth _ part => blames.mapping_succ make depth part,
      fun activity depth _ part => blames.pairs_succ activity depth part⟩
    rcases serves.cases with part | text
    · exact blames.part_succ depth part
    · exact BuildBlames.text_succ depth text

/-- The failure that counts is one of those that are met. -/
theorem mem_of_failure? {built : Built} (counts : built.failure? = some failure) :
    ∃ depth, (depth, failure) ∈ built.failures := by
  unfold Built.failure? at counts
  split at counts
  · cases counts
  · obtain ⟨met, found, rfl⟩ := Option.map_eq_some_iff.mp counts
    exact ⟨met.1, List.mem_of_find?_eq_some found⟩

/-! ## Texts -/

/-- Why a text has no value: for a fault, an escape, or a part that does not spell its kind. -/
inductive Unvalued (text : List Char) : Failure → Prop where
  | unacceptable (found : Char) (position : Nat) : Unvalued text (.unacceptable found position)
  | read {failure : Failure} (refused : Refuses text failure) : Unvalued text failure
  | built {root : Node} {failure : Failure} (read : nodeOf text = .ok (some root))
    (misspelled : Misspells root failure) : Unvalued text failure

/-- A text has a value unless there is a reason that it has none. -/
theorem valueOf_ends (text : List Char) : Ends (fun _ => True) (Unvalued text) (valueOf text) := by
  unfold valueOf
  split
  · exact .error (.unacceptable _ _)
  · have read : Ends (nodeOf text = .ok ·) (Unvalued text) (nodeOf text) :=
      .intro (fun _ read => read) fun _ refused => .read (nodeOf_refuses refused)
    refine read.bind fun root? read => ?_
    cases root? with
    | none => trivial
    | some root =>
      -- Building goes deep enough, so that its failures are those of parts of the node.
      have blames : Blames root (build (2 * root.height + 2) 0 root) :=
        (buildBlames root _).node 0 ⟨root, .whole, .inl rfl⟩
      dsimp only
      split
      · rename_i counts
        obtain ⟨depth, member⟩ := mem_of_failure? counts
        exact .error (.built read (blames _ member))
      · trivial

end AppSync.Yaml
