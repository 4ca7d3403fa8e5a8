import QualityGate.Proofs.Placeholder.Artifact
import QualityGate.Proofs.Text.Letter

/-!
# Promises in an artifact

A text of a document is known by its place, which is the position it is reached by at each level.
The texts of an artifact are looked at in the order of their places.  Each that promises work for
later is reported unless a valid entry governs it, by one of the keys above it or by its words.
-/

namespace QualityGate
namespace Placeholder

/-! ## The texts of a document -/

/-- A text of a document: the positions and the keys on the way to it, and what it says.  Items of
arrays have no key. -/
structure Leaf where
  place : List Nat
  keys : List String
  text : String

namespace Leaf

/-- The leaf, one level further down. -/
def below (position : Nat) (keys : List String) (leaf : Leaf) : Leaf :=
  ⟨position :: leaf.place, keys ++ leaf.keys, leaf.text⟩

/-- The leaf as a promise is reported: with its keys in lowercase. -/
def toPromise (leaf : Leaf) : Promise :=
  ⟨leaf.keys.map Text.lower, leaf.text⟩

end Leaf

/-- The document has the leaf. -/
inductive HasLeaf : Json → Leaf → Prop
  | text (value : String) : HasLeaf (.text value) ⟨[], [], value⟩
  | item {items : List Json} {position : Nat} {item : Json} {leaf : Leaf}
      (found : items[position]? = some item) (inside : HasLeaf item leaf) :
      HasLeaf (.array items) (leaf.below position [])
  | member {members : List (String × Json)} {position : Nat} {member : String × Json} {leaf : Leaf}
      (found : members[position]? = some member) (inside : HasLeaf member.2 leaf) :
      HasLeaf (.object members) (leaf.below position [member.1])

mutual

/-- The leaves of a document. -/
def leavesOf : Json → List Leaf
  | .text value => [⟨[], [], value⟩]
  | .array items => leavesOfItems 0 items
  | .object members => leavesOfMembers 0 members
  | _ => []

/-- The leaves of the items of an array from a position on. -/
def leavesOfItems (position : Nat) : List Json → List Leaf
  | [] => []
  | item :: rest =>
    (leavesOf item).map (Leaf.below position []) ++ leavesOfItems (position + 1) rest

/-- The leaves of the members of an object from a position on. -/
def leavesOfMembers (position : Nat) : List (String × Json) → List Leaf
  | [] => []
  | (key, value) :: rest =>
    (leavesOf value).map (Leaf.below position [key]) ++ leavesOfMembers (position + 1) rest

end

theorem exists_getElem?_cons
    {α : Type}
    (first : α)
    (rest : List α)
    (holds : Nat → α → Prop) :
    (∃ index item, (first :: rest)[index]? = some item ∧ holds index item) ↔
      holds 0 first ∨ ∃ index item, rest[index]? = some item ∧ holds (index + 1) item := by
  constructor
  · rintro ⟨index, item, found, held⟩
    cases index with
    | zero =>
      cases found
      exact .inl held
    | succ index => exact .inr ⟨index, item, found, held⟩
  · rintro (held | ⟨index, item, found, held⟩)
    · exact ⟨0, first, rfl, held⟩
    · exact ⟨index + 1, item, found, held⟩

-- The inductions below follow the recursion of the enumeration: a document leads to its items or
-- members, and those lead to the values they hold and to the rest of the list.
mutual

theorem mem_leavesOf_iff (document : Json) (leaf : Leaf) :
    leaf ∈ leavesOf document ↔ HasLeaf document leaf := by
  cases document with
  | null => exact ⟨nofun, nofun⟩
  | boolean value => exact ⟨nofun, nofun⟩
  | number value => exact ⟨nofun, nofun⟩
  | text value =>
    rw [leavesOf, List.mem_singleton]
    constructor
    · rintro rfl
      exact .text value
    · rintro ⟨⟩
      rfl
  | array items =>
    rw [leavesOf, mem_leavesOfItems_iff]
    constructor
    · rintro ⟨index, item, found, inside, hasLeaf, rfl⟩
      rw [Nat.zero_add]
      exact .item found hasLeaf
    · rintro (_ | ⟨found, inside⟩)
      exact ⟨_, _, found, _, inside, by rw [Nat.zero_add]⟩
  | object members =>
    rw [leavesOf, mem_leavesOfMembers_iff]
    constructor
    · rintro ⟨index, member, found, inside, hasLeaf, rfl⟩
      rw [Nat.zero_add]
      exact .member found hasLeaf
    · rintro (_ | _ | ⟨found, inside⟩)
      exact ⟨_, _, found, _, inside, by rw [Nat.zero_add]⟩

theorem mem_leavesOfItems_iff (position : Nat) (items : List Json) (leaf : Leaf) :
    leaf ∈ leavesOfItems position items ↔
      ∃ index item, items[index]? = some item ∧
        ∃ inside, HasLeaf item inside ∧ leaf = inside.below (position + index) [] := by
  cases items with
  | nil => simp [leavesOfItems]
  | cons item rest =>
    rw [leavesOfItems, List.mem_append, List.mem_map, mem_leavesOfItems_iff,
      exists_getElem?_cons item rest fun index item =>
        ∃ inside, HasLeaf item inside ∧ leaf = inside.below (position + index) []]
    simp only [mem_leavesOf_iff item, eq_comm, Nat.add_zero, Nat.add_assoc, Nat.add_comm 1]

theorem mem_leavesOfMembers_iff (position : Nat) (members : List (String × Json)) (leaf : Leaf) :
    leaf ∈ leavesOfMembers position members ↔
      ∃ index member, members[index]? = some member ∧
        ∃ inside, HasLeaf member.2 inside ∧ leaf = inside.below (position + index) [member.1] := by
  cases members with
  | nil => simp [leavesOfMembers]
  | cons member rest =>
    rw [leavesOfMembers, List.mem_append, List.mem_map, mem_leavesOfMembers_iff,
      exists_getElem?_cons member rest fun index member =>
        ∃ inside, HasLeaf member.2 inside ∧ leaf = inside.below (position + index) [member.1]]
    simp only [mem_leavesOf_iff member.2, eq_comm, Nat.add_zero, Nat.add_assoc, Nat.add_comm 1]

end

/-! ### The order of leaves -/

/-- The first leaf comes before the second one. -/
def Leaf.Precedes (first second : Leaf) : Prop :=
  first.place < second.place

theorem Leaf.below_precedes_below_iff
    (position : Nat)
    (keys : List String)
    (first second : Leaf) :
    (first.below position keys).Precedes (second.below position keys) ↔ first.Precedes second := by
  simp [Precedes, below]

/-- Leaves at one position come before leaves at later positions. -/
theorem pairwise_map_below_append
    {position : Nat}
    {keys : List String}
    {here later : List Leaf}
    (hereOrdered : here.Pairwise Leaf.Precedes)
    (laterOrdered : later.Pairwise Leaf.Precedes)
    (behind : ∀ leaf ∈ later, ∃ further > position, ∃ keys inside,
      leaf = Leaf.below further keys inside) :
    (here.map (Leaf.below position keys) ++ later).Pairwise Leaf.Precedes := by
  refine List.pairwise_append.mpr ⟨?_, laterOrdered, ?_⟩
  · rw [List.pairwise_map]
    simpa only [Leaf.below_precedes_below_iff] using hereOrdered
  · intro first isHere second isLater
    obtain ⟨inside, -, rfl⟩ := List.mem_map.mp isHere
    obtain ⟨further, after, keys, other, rfl⟩ := behind second isLater
    exact List.cons_lt_cons_iff.mpr (.inl after)

mutual

theorem pairwise_leavesOf (document : Json) : (leavesOf document).Pairwise Leaf.Precedes := by
  cases document with
  | null => exact .nil
  | boolean value => exact .nil
  | number value => exact .nil
  | text value => exact List.pairwise_singleton _ _
  | array items => exact pairwise_leavesOfItems 0 items
  | object members => exact pairwise_leavesOfMembers 0 members

theorem pairwise_leavesOfItems (position : Nat) (items : List Json) :
    (leavesOfItems position items).Pairwise Leaf.Precedes := by
  cases items with
  | nil => exact .nil
  | cons item rest =>
    refine pairwise_map_below_append (pairwise_leavesOf item)
      (pairwise_leavesOfItems (position + 1) rest) fun leaf member => ?_
    obtain ⟨index, item, -, inside, -, equal⟩ := (mem_leavesOfItems_iff _ rest leaf).mp member
    exact ⟨_, by omega, _, inside, equal⟩

theorem pairwise_leavesOfMembers (position : Nat) (members : List (String × Json)) :
    (leavesOfMembers position members).Pairwise Leaf.Precedes := by
  cases members with
  | nil => exact .nil
  | cons member rest =>
    refine pairwise_map_below_append (pairwise_leavesOf member.2)
      (pairwise_leavesOfMembers (position + 1) rest) fun leaf isLater => ?_
    obtain ⟨index, member, -, inside, -, equal⟩ :=
      (mem_leavesOfMembers_iff _ rest leaf).mp isLater
    exact ⟨_, by omega, _, inside, equal⟩

end

/-! ## Promises -/

/-- The promises among leaves, as they are reported below some keys. -/
def promisesAmong (path : List String) (leaves : List Leaf) : List Promise :=
  (leaves.filter fun leaf => promise.occursIn leaf.text).map fun leaf =>
    ⟨path ++ leaf.keys.map Text.lower, leaf.text⟩

theorem promisesAmong_append (path : List String) (first second : List Leaf) :
    promisesAmong path (first ++ second) =
      promisesAmong path first ++ promisesAmong path second := by
  rw [promisesAmong, List.filter_append, List.map_append]
  rfl

theorem promisesAmong_map_below
    (path : List String)
    (position : Nat)
    (keys : List String)
    (leaves : List Leaf) :
    promisesAmong path (leaves.map (Leaf.below position keys)) =
      promisesAmong (path ++ keys.map Text.lower) leaves := by
  simp [promisesAmong, List.filter_map, Function.comp_def, Leaf.below]

mutual

theorem promisesIn_eq (path : List String) (document : Json) :
    promisesIn path document = promisesAmong path (leavesOf document) := by
  cases document with
  | null => rfl
  | boolean value => rfl
  | number value => rfl
  | text value =>
    rw [promisesIn, leavesOf, promisesAmong]
    cases promised : promise.occursIn value <;> simp [promised]
  | array items => rw [promisesIn, leavesOf, promisesInItems_eq path 0 items]
  | object members => rw [promisesIn, leavesOf, promisesInMembers_eq path 0 members]

theorem promisesInItems_eq (path : List String) (position : Nat) (items : List Json) :
    promisesInItems path items = promisesAmong path (leavesOfItems position items) := by
  cases items with
  | nil => rfl
  | cons item rest =>
    rw [promisesInItems, leavesOfItems, promisesAmong_append, promisesAmong_map_below,
      List.map_nil, List.append_nil, promisesIn_eq path item,
      promisesInItems_eq path (position + 1) rest]

theorem promisesInMembers_eq
    (path : List String)
    (position : Nat)
    (members : List (String × Json)) :
    promisesInMembers path members = promisesAmong path (leavesOfMembers position members) := by
  cases members with
  | nil => rfl
  | cons member rest =>
    rw [promisesInMembers, leavesOfMembers, promisesAmong_append, promisesAmong_map_below,
      List.map_singleton, promisesIn_eq _ member.2, promisesInMembers_eq path (position + 1) rest]

end

/-- The leaf stands among the placeholders of a document. -/
def Leaf.isDeclaring (leaf : Leaf) : Bool :=
  leaf.keys.head? == some "placeholders"

/-- Without the placeholders, the promises of a document are those of its other leaves. -/
theorem promisesInMembers_filter (position : Nat) (members : List (String × Json)) :
    promisesInMembers [] (members.filter fun member => member.1 != "placeholders") =
      promisesAmong []
        ((leavesOfMembers position members).filter fun leaf => !leaf.isDeclaring) := by
  induction members generalizing position with
  | nil => rfl
  | cons member rest inductionHypothesis =>
    have declaring (leaf : Leaf) : (leaf.below position [member.1]).isDeclaring =
        (member.1 == "placeholders") := by
      simp [Leaf.isDeclaring, Leaf.below]
    rw [leavesOfMembers, List.filter_append, promisesAmong_append, ← inductionHypothesis,
      List.filter_map, promisesAmong_map_below]
    simp only [Function.comp_def, declaring]
    cases isPlaceholders : member.1 == "placeholders" with
    | true =>
      rw [List.filter_cons_of_neg (by simp [bne, isPlaceholders])]
      simp [promisesAmong]
    | false =>
      rw [List.filter_cons_of_pos (by simp [bne, isPlaceholders]), promisesInMembers,
        promisesIn_eq]
      simp

/-! ## Governed leaves -/

/-- The lowercase form of a scope whose entry can be read, and is valid. -/
def IsGoverning (members : List (String × Json)) (scope : String) : Prop :=
  ∃ entry ∈ entriesOf members, ∃ declaration ∈ declarationOf? entry,
    declaration.isValid = true ∧ ∃ written ∈ declaration.scope?, Text.lower written = scope

/-- A scope of the document is one of the keys above the leaf, or a part of its text. -/
def IsGovernedLeaf (members : List (String × Json)) (leaf : Leaf) : Prop :=
  ∃ scope, IsGoverning members scope ∧
    (scope ∈ leaf.keys.map Text.lower ∨ scope.toList <:+: (Text.lower leaf.text).toList)

theorem mem_governedScopes_iff (members : List (String × Json)) (scope : String) :
    scope ∈ governedScopes (declarationsOf members) ↔ IsGoverning members scope := by
  simp only [governedScopes, declarationsOf, IsGoverning, List.mem_filterMap, List.mem_filter,
    Option.map_eq_some_iff]
  constructor
  · rintro ⟨declaration, ⟨⟨entry, isEntry, read⟩, valid⟩, written⟩
    exact ⟨entry, isEntry, declaration, read, valid, written⟩
  · rintro ⟨entry, isEntry, declaration, read, valid, written⟩
    exact ⟨declaration, ⟨⟨entry, isEntry, read⟩, valid⟩, written⟩

theorem isGoverned_toPromise_iff (members : List (String × Json)) (leaf : Leaf) :
    isGoverned (governedScopes (declarationsOf members)) leaf.toPromise = true ↔
      IsGovernedLeaf members leaf := by
  simp only [isGoverned, Leaf.toPromise, Bool.or_eq_true, List.any_eq_true, List.contains_iff_mem,
    Text.contains_iff, mem_governedScopes_iff, IsGovernedLeaf]
  constructor
  · rintro (⟨scope, isKey, governing⟩ | ⟨scope, governing, occurs⟩)
    · exact ⟨scope, governing, .inl isKey⟩
    · exact ⟨scope, governing, .inr occurs⟩
  · rintro ⟨scope, governing, isKey | occurs⟩
    · exact .inl ⟨scope, isKey, governing⟩
    · exact .inr ⟨scope, governing, occurs⟩

/-- A field that has to be given is given by a valid declaration. -/
theorem Declaration.isMissing_eq_false
    {declaration : Declaration}
    (valid : declaration.isValid = true) :
    ∀ field ∈ declaration.needed, isMissing field.2 = false := by
  have noProblem : declaration.problems = [] := List.isEmpty_iff.mp valid
  simp only [problems, List.append_eq_nil_iff, List.map_eq_nil_iff, List.filter_eq_nil_iff]
    at noProblem
  exact fun field member => Bool.not_eq_true _ ▸ noProblem.1.1 field member

/-- The empty text would govern every leaf, but it is no scope of a valid entry. -/
theorem IsGoverning.ne_empty
    {members : List (String × Json)}
    {scope : String}
    (governing : IsGoverning members scope) :
    scope ≠ "" := by
  obtain ⟨entry, -, declaration, -, valid, written, isScope, rfl⟩ := governing
  have given := Declaration.isMissing_eq_false valid ("scope", declaration.scope?)
    (by simp [Declaration.needed])
  refine Text.lower_ne_empty ?_
  rintro rfl
  rw [Option.mem_def.mp isScope] at given
  cases given

/-! ## Dangling promises -/

/-- The leaf promises work for later, and nothing governs it. -/
structure IsDangling (members : List (String × Json)) (leaf : Leaf) : Prop where
  found : HasLeaf (.object members) leaf
  outside : leaf.keys.head? ≠ some "placeholders"
  promises : promise.occursIn leaf.text = true
  ungoverned : ¬IsGovernedLeaf members leaf

/-- The leaves of a document that promise work and that nothing governs. -/
def danglingLeaves (members : List (String × Json)) : List Leaf :=
  (leavesOf (.object members)).filter fun leaf =>
    !leaf.isDeclaring && promise.occursIn leaf.text &&
      !isGoverned (governedScopes (declarationsOf members)) leaf.toPromise

theorem mem_danglingLeaves_iff (members : List (String × Json)) (leaf : Leaf) :
    leaf ∈ danglingLeaves members ↔ IsDangling members leaf := by
  simp only [danglingLeaves, List.mem_filter, mem_leavesOf_iff, Leaf.isDeclaring,
    Bool.and_eq_true, Bool.not_eq_true', ← Bool.not_eq_true, isGoverned_toPromise_iff, beq_iff_eq]
  constructor
  · rintro ⟨found, ⟨outside, promises⟩, ungoverned⟩
    exact ⟨found, outside, promises, ungoverned⟩
  · rintro ⟨found, outside, promises, ungoverned⟩
    exact ⟨found, ⟨outside, promises⟩, ungoverned⟩

theorem danglingIn_eq (members : List (String × Json)) :
    danglingIn members = (danglingLeaves members).map Leaf.toPromise := by
  rw [danglingIn, promisesInMembers_filter 0, promisesAmong, danglingLeaves, leavesOf,
    List.filter_map, List.filter_filter, List.filter_filter]
  refine congrArg (List.map Leaf.toPromise) (List.filter_congr fun leaf _ => ?_)
  rw [Bool.and_assoc, Bool.and_comm (promise.occursIn leaf.text)]
  exact Bool.and_comm _ _

/-! ## Entries that are appended -/

/-- The second document is the first one with an entry appended to its placeholders. -/
structure Appends (entry : Json) (members after : List (String × Json)) : Prop where
  entries : entriesOf after = entriesOf members ++ [entry]
  others : (after.filter fun member => member.1 != "placeholders") =
    members.filter fun member => member.1 != "placeholders"

theorem governedScopes_append (first second : List Declaration) :
    governedScopes (first ++ second) = governedScopes first ++ governedScopes second := by
  simp [governedScopes]

theorem isGoverned_append (first second : List String) (found : Promise) :
    isGoverned (first ++ second) found = (isGoverned first found || isGoverned second found) := by
  rw [Bool.eq_iff_iff]
  simp only [isGoverned, List.contains_append, List.any_append, Bool.or_eq_true,
    List.any_eq_true, and_or_left, exists_or]
  exact or_or_or_comm

section Appended

variable {entry : Json} {members after : List (String × Json)}

theorem Appends.declarationsOf_eq (appends : Appends entry members after) :
    declarationsOf after = declarationsOf members ++ (declarationOf? entry).toList := by
  rw [declarationsOf, appends.entries, List.filterMap_append, declarationsOf,
    List.filterMap_eq_flatMap_toList _ [entry], List.flatMap_singleton]

/-- With a further entry, no further promise is left ungoverned. -/
theorem Appends.danglingIn_sublist (appends : Appends entry members after) :
    (danglingIn after).Sublist (danglingIn members) := by
  rw [danglingIn, danglingIn, appends.others, appends.declarationsOf_eq, governedScopes_append]
  refine List.monotone_filter_right _ fun found ungoverned => ?_
  rw [isGoverned_append, Bool.not_or, Bool.and_eq_true] at ungoverned
  exact ungoverned.1

/-- A further entry that is not valid governs nothing. -/
theorem Appends.danglingIn_eq
    (appends : Appends entry members after)
    (invalid : ∀ declaration ∈ declarationOf? entry, declaration.isValid = false) :
    danglingIn after = danglingIn members := by
  have nothing : governedScopes (declarationOf? entry).toList = [] := by
    cases read : declarationOf? entry with
    | none => rfl
    | some declaration => simp [governedScopes, invalid declaration read]
  rw [danglingIn, danglingIn, appends.others, appends.declarationsOf_eq, governedScopes_append,
    nothing, List.append_nil]

theorem Appends.isArtifactDocument (appends : Appends entry members after) :
    IsArtifactDocument after := by
  refine .inl (Option.ne_none_iff_exists'.mp fun absent => ?_)
  have entries := appends.entries
  simp [entriesOf, absent] at entries

end Appended

/-! ## All promises are accounted for -/

/-- What is found about the promises of an artifact. -/
structure AccountsForPromises
    (settings : PlaceholderSettings)
    (now : Instant)
    (source : Source)
    (members : List (String × Json)) : Prop where
  /-- Each dangling promise is reported once, in the order of places, with the keys above it. -/
  exact : ∃ leaves : List Leaf,
    leaves.Pairwise Leaf.Precedes ∧
      (∀ leaf, leaf ∈ leaves ↔ IsDangling members leaf) ∧
      ofRule "DANGLING_PROMISE" (checkArtifact settings now source) =
        leaves.map fun leaf =>
          promiseFinding source.display ⟨leaf.keys.map Text.lower, leaf.text⟩
  /-- No empty scope governs anything. -/
  nonempty : ∀ scope, IsGoverning members scope → scope ≠ ""
  /-- A further entry takes promises away, or none if it is not valid. -/
  appended : ∀ (entry : Json) (other : Source) (after : List (String × Json)),
    Json.parse other.content = .ok (.object after) → other.display = source.display →
    Appends entry members after →
      let found := ofRule "DANGLING_PROMISE" (checkArtifact settings now source)
      let left := ofRule "DANGLING_PROMISE" (checkArtifact settings now other)
      left.Sublist found ∧
        ((∀ declaration ∈ declarationOf? entry, declaration.isValid = false) → left = found)

/-- The promises that are found in an artifact are exactly the dangling ones. -/
theorem ofRule_promise_checkArtifact
    (settings : PlaceholderSettings)
    (now : Instant)
    {source : Source}
    {members : List (String × Json)}
    (read : Json.parse source.content = .ok (.object members))
    (artifact : IsArtifactDocument members) :
    ofRule "DANGLING_PROMISE" (checkArtifact settings now source) =
      (danglingIn members).map (promiseFinding source.display) := by
  rw [checkArtifact, read]
  exact ofRule_promise_checkMembers settings now source.display artifact

/-- Every promise of an artifact is governed by an entry or reported. -/
theorem checkArtifact_accountsForPromises
    (settings : PlaceholderSettings)
    (now : Instant)
    {source : Source}
    {members : List (String × Json)}
    (read : Json.parse source.content = .ok (.object members))
    (artifact : IsArtifactDocument members) :
    AccountsForPromises settings now source members where
  exact := by
    refine ⟨danglingLeaves members, (pairwise_leavesOf _).filter _, mem_danglingLeaves_iff members,
      ?_⟩
    rw [ofRule_promise_checkArtifact settings now read artifact, danglingIn_eq, List.map_map]
    rfl
  nonempty _ governing := governing.ne_empty
  appended entry other after readAfter sameFile appends := by
    rw [ofRule_promise_checkArtifact settings now read artifact,
      ofRule_promise_checkArtifact settings now readAfter appends.isArtifactDocument, sameFile]
    refine ⟨appends.danglingIn_sublist.map _, fun invalid => ?_⟩
    rw [appends.danglingIn_eq invalid]

set_option maxRecDepth 20000 in
/-- Of two promises in an artifact, the one below a key is governed by the entry that is appended.
-/
theorem checkArtifact_accountsForPromises_of_appended_entry :
    let now : Instant := ⟨⟨2026, 5, 4⟩, 43200, 0⟩
    let written (entries : String) : Source :=
      ⟨"a.json", "\x7b\"Auth\":[\x7b\"Keys\":\"TODO\"\x7d],\"next\":\"TBD\",\"placeholders\":[" ++
        entries ++ "]\x7d"⟩
    let entry : Json := .object
      [("fallback", .text "f"), ("id", .text "i"), ("impact", .text "partial"),
        ("reason", .text "r"), ("scope", .text "AUTH")]
    let members (entries : List Json) : List (String × Json) :=
      [("Auth", .array [.object [("Keys", .text "TODO")]]), ("next", .text "TBD"),
        ("placeholders", .array entries)]
    let source := written ""
    let other := written ("\x7b\"id\":\"i\",\"scope\":\"AUTH\",\"reason\":\"r\"," ++
      "\"impact\":\"partial\",\"fallback\":\"f\"\x7d")
    AccountsForPromises {} now source (members []) ∧
      Json.parse other.content = .ok (.object (members [entry])) ∧
      Appends entry (members []) (members [entry]) ∧
      (ofRule "DANGLING_PROMISE" (checkArtifact {} now source)).map Finding.message =
        ["'auth.keys' promises future work without a declared placeholder: \"TODO\"",
          "'next' promises future work without a declared placeholder: \"TBD\""] ∧
      (ofRule "DANGLING_PROMISE" (checkArtifact {} now other)).length = 1 := by
  -- without names for its parts the goal is closed, and the documents can be read
  dsimp only
  refine ⟨checkArtifact_accountsForPromises {} _ ?_ (.inl ⟨_, rfl⟩), ?_, ⟨rfl, rfl⟩,
    by decide +kernel, by decide +kernel⟩
  · rfl
  · rfl

end Placeholder
end QualityGate
