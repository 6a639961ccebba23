import BrokerTenancy.Access.Path

/-!
The grammar of the namespaced interface, said by what a path is put together from. Reading a path
takes it apart again: a path has a target exactly when it can be put together, and that in one way
only, because no word holds a slash.
-/

namespace BrokerTenancy

/-- A character of `[a-zA-Z0-9_.-]`. -/
def InName (character : Char) : Prop :=
  ('a' ≤ character ∧ character ≤ 'z') ∨ ('A' ≤ character ∧ character ≤ 'Z') ∨
    ('0' ≤ character ∧ character ≤ '9') ∨ character = '_' ∨ character = '.' ∨ character = '-'

/-- A character of `[a-z_-]`. -/
def InType (character : Char) : Prop :=
  ('a' ≤ character ∧ character ≤ 'z') ∨ character = '_' ∨ character = '-'

/-- A character of `[a-z-]`. -/
def InSubtype (character : Char) : Prop :=
  ('a' ≤ character ∧ character ≤ 'z') ∨ character = '-'

/-- A text that is not empty, with characters of a class only. -/
structure Word (inClass : Char → Prop) where
  text : String
  filled : text ≠ ""
  letters : ∀ character ∈ text.toList, inClass character

/-- What a path of the namespaced interface is put together from. -/
inductive NamespacedPath where
  | ofType (owner : Word InName) (type : Word InType)
  | ofName (owner : Word InName) (type : Word InType) (name : Word InName)
  | ofSubtype (owner : Word InName) (type : Word InType) (name : Word InName)
      (subtype : Word InSubtype)

namespace NamespacedPath

/-- The words behind `/api/namespaces/`, which slashes stand between. -/
def words : NamespacedPath → List String
  | .ofType owner type => [owner.text, type.text]
  | .ofName owner type name => [owner.text, type.text, name.text]
  | .ofSubtype owner type name subtype => [owner.text, type.text, name.text, subtype.text]

def text (path : NamespacedPath) : String := "/api/namespaces/" ++ "/".intercalate path.words

def target : NamespacedPath → RequestTarget
  | .ofType owner type => { namespaceName := owner.text, resourceType := type.text }
  | .ofName owner type _ => { namespaceName := owner.text, resourceType := type.text }
  | .ofSubtype owner type _ subtype =>
      { namespaceName := owner.text, resourceType := type.text ++ "/" ++ subtype.text }

/-- The segments of the path behind those that every path starts with. -/
def ownSegments (path : NamespacedPath) : List (List Char) := path.words.map String.toList

end NamespacedPath

theorem is_lower_iff (character : Char) :
    character.isLower = true ↔ 'a' ≤ character ∧ character ≤ 'z' := by
  change (decide _ && decide _) = true ↔ _
  rw [Bool.and_eq_true, decide_eq_true_eq, decide_eq_true_eq]
  exact Iff.rfl

theorem is_name_character_iff (character : Char) :
    isNameCharacter character = true ↔ InName character := by
  have upper : character.isUpper = true ↔ 'A' ≤ character ∧ character ≤ 'Z' := decide_eq_true_iff
  have digit : character.isDigit = true ↔ '0' ≤ character ∧ character ≤ '9' := by
    rw [Char.isDigit, Bool.and_eq_true, decide_eq_true_eq, decide_eq_true_eq]
    exact Iff.rfl
  rw [InName, ← or_assoc, or_comm (a := 'a' ≤ character ∧ _)]
  change (character.isUpper || character.isLower || character.isDigit || _ || _ || _) = true ↔ _
  simp only [Bool.or_eq_true, beq_iff_eq, is_lower_iff, upper, digit, or_assoc]

theorem is_type_character_iff (character : Char) :
    isTypeCharacter character = true ↔ InType character := by
  simp only [isTypeCharacter, InType, Bool.or_eq_true, beq_iff_eq, is_lower_iff, or_assoc]

theorem is_subtype_character_iff (character : Char) :
    isSubtypeCharacter character = true ↔ InSubtype character := by
  simp only [isSubtypeCharacter, InSubtype, Bool.or_eq_true, beq_iff_eq, is_lower_iff]

namespace Word

variable {inClass : Char → Prop}

theorem eq_of_text {left right : Word inClass} (same : left.text.toList = right.text.toList) :
    left = right := by
  cases left
  cases right
  rw [String.toList_inj] at same
  cases same
  rfl

theorem no_slash (outside : ¬inClass '/') (word : Word inClass) : '/' ∉ word.text.toList :=
  fun member => outside (word.letters '/' member)

end Word

/-- The segments that a test lets through are the words of its class. -/
theorem is_segment_iff {test : Char → Bool} {inClass : Char → Prop}
    (same : ∀ character, test character = true ↔ inClass character) (segment : List Char) :
    isSegment test segment = true ↔ ∃ word : Word inClass, word.text.toList = segment := by
  rw [isSegment, Bool.and_eq_true, Bool.not_eq_true', List.isEmpty_eq_false_iff, List.all_eq_true]
  constructor
  · intro ⟨filled, letters⟩
    refine ⟨⟨.ofList segment, ?_, ?_⟩, String.toList_ofList⟩
    · intro empty
      apply filled
      rw [← String.toList_ofList (l := segment), empty]
      rfl
    · intro character member
      rw [String.toList_ofList] at member
      exact (same character).mp (letters character member)
  · intro ⟨word, text⟩
    rw [← text]
    constructor
    · intro empty
      exact word.filled (String.toList_inj.mp empty)
    · intro character member
      exact (same character).mpr (word.letters character member)

theorem segments_eq (characters : List Char) : segments characters = characters.splitOn '/' := by
  induction characters with
  | nil => rfl
  | cons character rest induction =>
      rw [segments, induction, List.splitOn_cons_eq_if_modifyHead]
      simp only [beq_iff_eq]
      split
      · rfl
      · cases parts : rest.splitOn '/' with
        | nil => exact absurd parts (List.splitOn_ne_nil '/' rest)
        | cons first others => rfl

/-- Each segment is tested on its own. -/
theorem name_segment_iff (segment : List Char) :
    isSegment isNameCharacter segment = true ↔ ∃ word : Word InName, word.text.toList = segment :=
  is_segment_iff is_name_character_iff segment

theorem type_segment_iff (segment : List Char) :
    isSegment isTypeCharacter segment = true ↔ ∃ word : Word InType, word.text.toList = segment :=
  is_segment_iff is_type_character_iff segment

theorem subtype_segment_iff (segment : List Char) :
    isSegment isSubtypeCharacter segment = true ↔
      ∃ word : Word InSubtype, word.text.toList = segment :=
  is_segment_iff is_subtype_character_iff segment

namespace RequestTarget

theorem of_segments_own (path : NamespacedPath) :
    ofSegments path.ownSegments = some path.target := by
  have ofName (word : Word InName) : isSegment isNameCharacter word.text.toList = true :=
    (name_segment_iff _).mpr ⟨word, rfl⟩
  have ofType (word : Word InType) : isSegment isTypeCharacter word.text.toList = true :=
    (type_segment_iff _).mpr ⟨word, rfl⟩
  have ofSubtype (word : Word InSubtype) :
      isSegment isSubtypeCharacter word.text.toList = true :=
    (subtype_segment_iff _).mpr ⟨word, rfl⟩
  have joined (type subtype : String) :
      String.ofList (type.toList ++ '/' :: subtype.toList) = type ++ "/" ++ subtype := by
    rw [← String.toList_inj, String.toList_ofList, String.toList_append, String.toList_append,
      List.append_assoc]
    rfl
  cases path with
  | ofType | ofName | ofSubtype =>
      simp only [NamespacedPath.ownSegments, NamespacedPath.words, List.map_cons, List.map_nil,
        NamespacedPath.target, ofSegments, ofName, ofType, ofSubtype, Bool.and_self, if_true,
        String.ofList_toList, joined]

/-- Segments with a target are the words of a path. -/
theorem exists_own_segments {rest : List (List Char)} {target : RequestTarget}
    (told : ofSegments rest = some target) : ∃ path : NamespacedPath, path.ownSegments = rest := by
  unfold ofSegments at told
  split at told
  · split at told
    · next test =>
      rw [Bool.and_eq_true, name_segment_iff, type_segment_iff] at test
      obtain ⟨⟨owner, rfl⟩, ⟨type, rfl⟩⟩ := test
      exact ⟨.ofType owner type, rfl⟩
    · cases told
  · split at told
    · next test =>
      rw [Bool.and_eq_true, Bool.and_eq_true, name_segment_iff, type_segment_iff,
        name_segment_iff] at test
      obtain ⟨⟨⟨owner, rfl⟩, ⟨type, rfl⟩⟩, ⟨name, rfl⟩⟩ := test
      exact ⟨.ofName owner type name, rfl⟩
    · cases told
  · split at told
    · next test =>
      rw [Bool.and_eq_true, Bool.and_eq_true, Bool.and_eq_true, name_segment_iff,
        type_segment_iff, name_segment_iff, subtype_segment_iff] at test
      obtain ⟨⟨⟨⟨owner, rfl⟩, ⟨type, rfl⟩⟩, ⟨name, rfl⟩⟩, ⟨subtype, rfl⟩⟩ := test
      exact ⟨.ofSubtype owner type name subtype, rfl⟩
    · cases told
  · cases told

end RequestTarget

namespace NamespacedPath

theorem own_segments_ne_nil (path : NamespacedPath) : path.ownSegments ≠ [] := by
  cases path <;> exact List.cons_ne_nil _ _

theorem text_joins (path : NamespacedPath) :
    path.text.toList = ['/'].intercalate (RequestTarget.root ++ path.ownSegments) := by
  have start : "/api/namespaces/".toList =
      '/' :: ("api".toList ++ '/' :: ("namespaces".toList ++ ['/'])) := by decide
  have slash : "/".toList = ['/'] := rfl
  have joined : ['/'].intercalate (RequestTarget.root ++ path.ownSegments) =
      [] ++ ['/'] ++ ("api".toList ++ ['/'] ++ ("namespaces".toList ++ ['/'] ++
        ['/'].intercalate path.ownSegments)) := by
    rw [RequestTarget.root, List.cons_append, List.cons_append, List.cons_append, List.nil_append,
      List.intercalate_cons_cons, List.intercalate_cons_cons,
      List.intercalate_cons_of_ne_nil path.own_segments_ne_nil]
  unfold text
  rw [String.toList_append, String.toList_intercalate, start, slash, joined, ownSegments]
  simp only [List.cons_append, List.nil_append, List.append_assoc]

theorem no_slash (path : NamespacedPath) :
    ∀ segment ∈ RequestTarget.root ++ path.ownSegments, '/' ∉ segment := by
  have inName (word : Word InName) := word.no_slash (by unfold InName; decide)
  have inType (word : Word InType) := word.no_slash (by unfold InType; decide)
  have inSubtype (word : Word InSubtype) := word.no_slash (by unfold InSubtype; decide)
  cases path <;>
    simp only [RequestTarget.root, ownSegments, words, List.map_cons, List.map_nil,
      List.cons_append, List.nil_append, List.forall_mem_cons, List.not_mem_nil, false_implies,
      implies_true, and_true, inName, inType, inSubtype, not_false_eq_true] <;>
    decide

/-- A path is put together from words exactly when its segments are these words. -/
theorem text_eq_iff (path : NamespacedPath) (text : String) :
    path.text = text ↔ segments text.toList = RequestTarget.root ++ path.ownSegments := by
  rw [segments_eq, ← String.toList_inj, path.text_joins]
  constructor
  · intro same
    rw [← same]
    apply List.splitOn_intercalate '/' path.no_slash
    exact List.append_ne_nil_of_left_ne_nil (List.cons_ne_nil _ _) _
  · intro parts
    rw [← parts]
    exact List.intercalate_splitOn '/'

theorem own_segments_injective {left right : NamespacedPath}
    (same : left.ownSegments = right.ownSegments) : left = right := by
  cases left <;> cases right <;>
    simp only [ownSegments, words, List.map_cons, List.map_nil, List.cons.injEq, reduceCtorEq,
      and_true, and_false] at same
  · rw [Word.eq_of_text same.1, Word.eq_of_text same.2]
  · rw [Word.eq_of_text same.1, Word.eq_of_text same.2.1, Word.eq_of_text same.2.2]
  · rw [Word.eq_of_text same.1, Word.eq_of_text same.2.1, Word.eq_of_text same.2.2.1,
      Word.eq_of_text same.2.2.2]

theorem text_injective : Function.Injective text := by
  intro left right same
  have parts := (left.text_eq_iff right.text).mp same
  rw [(right.text_eq_iff right.text).mp rfl] at parts
  exact own_segments_injective (List.append_cancel_left parts).symm

end NamespacedPath

/-- A path has a target exactly when it is put together from `/api/namespaces/`, a name and a type,
with a further name behind them or with a further name and a subtype, all with slashes in between.
There is one way at most to take a path apart like that, and the target holds the first name and the
type, the latter with the subtype if there is one. -/
theorem RequestTarget.of_path_eq_some_iff (path : String) (target : RequestTarget) :
    (ofPath path = some target ↔
        ∃ parts : NamespacedPath, parts.text = path ∧ parts.target = target) ∧
      Function.Injective NamespacedPath.text := by
  refine ⟨⟨?_, ?_⟩, NamespacedPath.text_injective⟩
  · intro told
    rw [ofPath] at told
    split at told
    · next front =>
      obtain ⟨parts, own⟩ := exists_own_segments told
      refine ⟨parts, ?_, ?_⟩
      · have whole := List.take_append_drop root.length (segments path.toList)
        rw [front, ← own] at whole
        exact (parts.text_eq_iff path).mpr whole.symm
      · rw [← own, of_segments_own] at told
        exact Option.some.inj told
    · cases told
  · intro ⟨parts, text, same⟩
    rw [parts.text_eq_iff] at text
    rw [ofPath, text, if_pos List.take_left, List.drop_left, of_segments_own, same]

/-- A line break behind the name is no character of a name. -/
example : RequestTarget.ofPath "/api/namespaces/shop/topics/orders\n" = none := by decide +kernel

end BrokerTenancy
