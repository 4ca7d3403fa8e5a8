import QualityGate.Language.Profile
import QualityGate.Proofs.Text.Search
import Mathlib.Data.List.Basic

/-!
# The pieces of a line

A scan cuts a line into code, comment text and delimiters.  The cuts lose no character, every
delimiter stands where the style of the language allows it, and the scan is through with a line
after at most one step for each of its characters.
-/

namespace QualityGate
namespace CommentStyle

/-- Opening and closing a block both take a character, so no scan through such a style stands
still. -/
def IsProper (style : CommentStyle) : Prop :=
  ∀ opening closing, style.block? = some (opening, closing) →
    opening.toList ≠ [] ∧ closing.toList ≠ []

/-- The profile of a path or of a language has this style. -/
def IsCarried (style : CommentStyle) : Prop :=
  (∃ path, (Profile.ofPath path).comments = style) ∨
    ∃ language?, (Profile.ofLanguage language?).comments = style

/-- The styles of all profiles. -/
def all : List CommentStyle :=
  [slashes, slashesWithLifetimes, hashes, hashesWithDocstrings, slashesAndHashes, general, markup,
    plainStyleSheet, compiledStyleSheet, settings]

theorem comments_mem_all (language : Language) : language.comments ∈ all := by
  cases language <;> decide

theorem ofExtension_mem_all (extension : String) : ofExtension extension ∈ all := by
  unfold ofExtension
  repeat' split
  all_goals decide

theorem IsCarried.mem_all {style : CommentStyle} (carried : style.IsCarried) : style ∈ all := by
  have ofLanguage (language? : Option Language) :
      (Profile.ofLanguage language?).comments ∈ all := by
    cases language? with
    | none => decide
    | some language => exact comments_mem_all language
  obtain ⟨path, rfl⟩ | ⟨language?, rfl⟩ := carried
  · unfold Profile.ofPath
    split
    · exact ofLanguage _
    · exact ofExtension_mem_all _
  · exact ofLanguage language?

theorem isProper_of_blocks {style : CommentStyle}
    (blocks : style.block? ∈ [none, some ("/*", "*/"), some ("\"\"\"", "\"\"\""),
      some ("<!--", "-->")]) :
    style.IsProper := by
  intro opening closing block
  rw [block] at blocks
  simp only [List.mem_cons, Option.some.injEq, Prod.mk.injEq, reduceCtorEq, List.not_mem_nil,
    false_or, or_false] at blocks
  obtain ⟨rfl, rfl⟩ | ⟨rfl, rfl⟩ | ⟨rfl, rfl⟩ := blocks <;> decide

theorem isProper_of_mem_all {style : CommentStyle} (listed : style ∈ all) : style.IsProper := by
  have blocks : ∀ style ∈ all, style.block? ∈ [none, some ("/*", "*/"),
      some ("\"\"\"", "\"\"\""), some ("<!--", "-->")] := by
    decide
  exact isProper_of_blocks (blocks style listed)

theorem IsCarried.isProper {style : CommentStyle} (carried : style.IsCarried) :
    style.IsProper :=
  isProper_of_mem_all carried.mem_all

end CommentStyle

namespace Comment

/-! ## What one step takes -/

theorem literalTail_fst_ne_nil (quote character : Char) (rest : List Char) :
    (literalTail quote (character :: rest)).1 ≠ [] := by
  rw [literalTail.eq_def]
  split <;> simp_all
  split <;> simp

theorem one_le_characterLiteralLength (characters : List Char) :
    1 ≤ (characterLiteralLength? characters).getD 1 := by
  unfold characterLiteralLength?
  split
  · cases List.findIdx? _ _ <;> simp
  · split <;> simp
  · simp

theorem codeStep_fst_ne_nil (style : CommentStyle) (character : Char) (rest : List Char) :
    (codeStep style character rest).1 ≠ [] := by
  unfold codeStep
  split
  · have := one_le_characterLiteralLength (character :: rest)
    simp
    omega
  · split <;> simp

theorem codeStep_mode_ne_block (style : CommentStyle) (character : Char) (rest : List Char) :
    (codeStep style character rest).2.2 ≠ .block := by
  unfold codeStep
  split
  · simp
  · split <;> simp

theorem mem_markers_of_markerAt? {style : CommentStyle} {characters marker : List Char}
    (found : markerAt? style characters = some marker) :
    ∃ text ∈ style.markers, text.toList = marker := by
  obtain ⟨text, first, equal⟩ := Option.map_eq_some_iff.1 found
  exact ⟨text, List.mem_of_find?_eq_some first, equal⟩

/-- A block opens with the delimiter of the style at the front. -/
theorem eq_append_of_opening {style : CommentStyle} {characters after : List Char}
    {opening : String}
    (found : (style.block?.bind fun block =>
      (block.1.toList.isPrefixOf? characters).map fun after => (block.1, after)) =
        some (opening, after)) :
    (∃ closing, style.block? = some (opening, closing)) ∧
      characters = opening.toList ++ after := by
  obtain ⟨⟨first, closing⟩, block, atFront⟩ := Option.bind_eq_some_iff.1 found
  obtain ⟨rest, split, equal⟩ := Option.map_eq_some_iff.1 atFront
  cases equal
  exact ⟨⟨closing, block⟩, Text.eq_append_of_isPrefixOf? split⟩

/-- What is left behind a front that is not empty is shorter. -/
theorem length_le_of_cons_eq_append {character : Char} {rest front after : List Char}
    (split : character :: rest = front ++ after) (taken : front ≠ []) (fuel : Nat)
    (enough : (character :: rest).length ≤ fuel + 1) : after.length ≤ fuel := by
  have := List.length_pos_iff.2 taken
  rw [split, List.length_append] at enough
  omega

/-- Fuel for a character is at least one. -/
theorem forall_fuel_of_succ {character : Char} {rest : List Char} {holds : Nat → Prop}
    (succ : ∀ fuel, (character :: rest).length ≤ fuel + 1 → holds (fuel + 1)) :
    ∀ fuel, (character :: rest).length ≤ fuel → holds fuel
  | 0, enough => absurd enough (by simp)
  | fuel + 1, enough => succ fuel enough

/-! ## The pieces of a scan -/

/-- How the pieces of a line that starts and ends inside or outside of a block follow each other.
Code stands outside of blocks.  Comment text stands inside, up to the first closing delimiter, or
behind a marker, where it goes on to the end of the line. -/
inductive Layout (style : CommentStyle) : Bool → List Piece → Bool → Prop
  | done {inBlock : Bool} : Layout style inBlock [] inBlock
  | code {characters : List Char} {following : List Piece} {ends : Bool}
      (taken : characters ≠ []) (rest : Layout style false following ends) :
      Layout style false (.code characters :: following) ends
  | marker {text : String} {characters : List Char} (listed : text ∈ style.markers) :
      Layout style false [.marker text.toList, .comment characters] false
  | opens {opening closing : String} {following : List Piece} {ends : Bool}
      (block : style.block? = some (opening, closing)) (rest : Layout style true following ends) :
      Layout style false (.blockStart opening.toList :: following) ends
  | stays {opening closing : String} {characters : List Char}
      (block : style.block? = some (opening, closing))
      (unclosed : ¬ closing.toList <:+: characters) :
      Layout style true [.comment characters] true
  | closes {opening closing : String} {inside : List Char} {following : List Piece} {ends : Bool}
      (block : style.block? = some (opening, closing))
      (first : ¬ closing.toList <:+: inside ++ closing.toList.dropLast)
      (rest : Layout style false following ends) :
      Layout style true (.comment inside :: .blockEnd closing.toList :: following) ends

/-- A scan may stand inside a block only if the style has blocks. -/
def Stands (style : CommentStyle) (mode : Mode) : Prop :=
  mode = .block → style.block? ≠ none

/-- The result of a scan from a mode through the given characters. -/
structure Cuts (style : CommentStyle) (mode : Mode) (characters : List Char)
    (result : List Piece × Bool) : Prop where
  source : result.1.flatMap Piece.source = characters
  layout : Layout style (mode == .block) result.1 result.2
  steps : ∀ fuel, characters.length ≤ fuel → piecesFrom style fuel mode characters = result

theorem cuts_nil (style : CommentStyle) (mode : Mode) :
    Cuts style mode [] ([], mode == .block) := by
  refine ⟨rfl, .done, fun fuel _ => ?_⟩
  cases fuel <;> rw [piecesFrom]

theorem stands_of_ne_block {style : CommentStyle} {mode : Mode} (other : mode ≠ .block) :
    Stands style mode :=
  fun block => absurd block other

/-- With a step of fuel for each character, the scan cuts all of them. -/
theorem cuts_piecesFrom {style : CommentStyle} (proper : style.IsProper) (fuel : Nat) (mode : Mode)
    (characters : List Char) (stands : Stands style mode) (enough : characters.length ≤ fuel) :
    Cuts style mode characters (piecesFrom style fuel mode characters) := by
  -- a step takes at least one character, so what is left is within the fuel of the next step, for
  -- the given amount of fuel and for every other one that is enough
  fun_induction piecesFrom style fuel mode characters with
  | case1 mode characters =>
    have empty : characters = [] := List.eq_nil_of_length_eq_zero (Nat.le_zero.1 enough)
    subst empty
    exact cuts_nil style mode
  | case2 fuel mode => exact cuts_nil style mode
  | case3 fuel character rest noBlock =>
    -- the one step that takes nothing is that out of a block which the style does not have
    exact absurd noBlock (stands rfl)
  | case4 fuel character rest opening closing block absent =>
    have unclosed : ¬ closing.toList <:+: character :: rest := by
      rw [← Text.isSome_splitAt?_iff, absent]
      exact Bool.false_ne_true
    refine ⟨List.append_nil _, .stays block unclosed, forall_fuel_of_succ fun fuel enough => ?_⟩
    simp only [piecesFrom, block, absent]
  | case5 fuel character rest opening closing block inside after found pieces inBlock scan ih =>
    have split := Text.eq_append_of_splitAt? found
    have closes := (proper opening closing block).2
    have shorter := length_le_of_cons_eq_append split (by simp [closes])
    have further := ih (stands_of_ne_block nofun) (shorter fuel enough)
    rw [scan] at further
    refine ⟨?_, .closes block (Text.not_infix_of_splitAt? closes found) further.layout,
      forall_fuel_of_succ fun fuel enough => ?_⟩
    · rw [split, ← further.source]
      simp [Piece.source]
    · simp only [piecesFrom, block, found, further.steps fuel (shorter fuel enough)]
  | case6 fuel quote character rest inside after literal pieces inBlock scan ih =>
    have taken : inside ≠ [] := by
      simpa [literal] using literalTail_fst_ne_nil quote character rest
    have split : character :: rest = inside ++ after := by
      simpa [literal] using (literalTail_append quote (character :: rest)).symm
    have shorter := length_le_of_cons_eq_append split taken
    have further := ih (stands_of_ne_block nofun) (shorter fuel enough)
    rw [scan] at further
    refine ⟨?_, .code taken further.layout, forall_fuel_of_succ fun fuel enough => ?_⟩
    · rw [split, ← further.source]
      rfl
    · simp only [piecesFrom, literal, further.steps fuel (shorter fuel enough)]
  | case7 fuel character rest marker found =>
    obtain ⟨text, listed, rfl⟩ := mem_markers_of_markerAt? found
    refine ⟨?_, .marker listed, forall_fuel_of_succ fun fuel enough => ?_⟩
    · simpa [Piece.source] using append_of_markerAt? found
    · simp only [piecesFrom, found]
  | case8 fuel character rest noMarker opening after found pieces inBlock scan ih =>
    obtain ⟨⟨closing, block⟩, split⟩ := eq_append_of_opening found
    have shorter := length_le_of_cons_eq_append split (proper opening closing block).1
    have stands : Stands style .block := fun _ => by simp [block]
    have further := ih stands (shorter fuel enough)
    rw [scan] at further
    refine ⟨?_, .opens block further.layout, forall_fuel_of_succ fun fuel enough => ?_⟩
    · rw [split, ← further.source]
      rfl
    · simp only [piecesFrom, noMarker, found, further.steps fuel (shorter fuel enough)]
  | case9 fuel character rest noMarker noBlock taken after mode step pieces inBlock scan ih =>
    have nonempty : taken ≠ [] := by
      simpa [step] using codeStep_fst_ne_nil style character rest
    have split : character :: rest = taken ++ after := by
      simpa [step] using (codeStep_append style character rest).symm
    have other : mode ≠ .block := by
      simpa [step] using codeStep_mode_ne_block style character rest
    have outside : (mode == .block) = false := by simpa using other
    have shorter := length_le_of_cons_eq_append split nonempty
    have further := ih (stands_of_ne_block other) (shorter fuel enough)
    rw [scan] at further
    refine ⟨?_, .code nonempty (outside ▸ further.layout),
      forall_fuel_of_succ fun fuel enough => ?_⟩
    · rw [split, ← further.source]
      rfl
    · simp only [piecesFrom, noMarker, noBlock, step, further.steps fuel (shorter fuel enough)]

end Comment
end QualityGate
