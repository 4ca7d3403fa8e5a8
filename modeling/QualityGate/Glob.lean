import QualityGate.Pattern

/-!
# Globs

Patterns of paths.  A question mark stands for one byte and a star for any number of bytes; two
stars stand for any number of folders.  Brackets hold classes, braces hold alternatives, and a
backslash takes away the meaning of what follows.  A glob is matched against the whole of a path,
byte by byte.
-/

namespace QualityGate
namespace Glob

/-- Why a text is no glob. -/
inductive Cause where
  | unclosedClass
  | invalidRange (low high : Char)
  | unopenedAlternates
  | unclosedAlternates
  | danglingEscape
deriving Repr, DecidableEq

namespace Cause

/-- A cause in words. -/
def message : Cause → String
  | .unclosedClass => "unclosed character class; missing ']'"
  | .invalidRange low high =>
    "invalid range; '" ++ String.singleton low ++ "' > '" ++ String.singleton high ++ "'"
  | .unopenedAlternates =>
    "unopened alternate group; missing '\x7b' (maybe escape '\x7d' with '[\x7d]'?)"
  | .unclosedAlternates =>
    "unclosed alternate group; missing '\x7d' (maybe escape '\x7b' with '[\x7b]'?)"
  | .danglingEscape => "dangling '\\'"

end Cause

/-- Which variant of globs is read. -/
structure Options where
  /-- Wildcards do not match a slash. -/
  stopsAtSlash : Bool
  /-- A bracket that is not closed stands for itself. -/
  allowsOpenClass : Bool
deriving Repr, DecidableEq

namespace Options

/-- Wildcards match everything, and brackets have to be closed. -/
def plain : Options := ⟨false, false⟩

/-- Wildcards stop at slashes, as in lists of ignored files. -/
def ignoring : Options := ⟨true, true⟩

end Options

/-- A part of a glob. -/
inductive Token where
  | literal (character : Char)
  | any
  | star
  /-- Any number of folders at the front. -/
  | foldersFirst
  /-- Everything below. -/
  | foldersLast
  /-- Any number of folders between two slashes. -/
  | foldersBetween
  | charClass (negated : Bool) (ranges : List (Char × Char))
  | alternates (branches : List (List Token))
deriving Repr

/-! ## Reading -/

/-- The state of reading: what is left, the character read last, the branches of alternatives that
are being read (the current one first, its parts from the last to the first), for every open group
the number of branches around it, and whether an open bracket was met. -/
structure State where
  rest : List Char
  last? : Option Char
  branches : List (List Token)
  groups : List Nat
  openClass : Bool

namespace State

/-- Append a part to the current branch. -/
def push (state : State) (token : Token) : State :=
  match state.branches with
  | [] => { state with branches := [[token]] }
  | branch :: others => { state with branches := (token :: branch) :: others }

/-- Replace the last part of the current branch. -/
def replaceLast (state : State) (change : Token → Token) : State :=
  match state.branches with
  | (token :: branch) :: others => { state with branches := (change token :: branch) :: others }
  | _ => state

/-- Step over characters. -/
def skip (state : State) (taken : Char) (rest : List Char) : State :=
  { state with rest := rest, last? := some taken }

end State

/-- Ranges of a class under construction, from the last to the first. -/
structure ClassDraft where
  ranges : List (Char × Char)
  inRange : Bool
  first : Bool

/-- End the last range of a class. -/
def ClassDraft.close (draft : ClassDraft) (high : Char) : Except Cause ClassDraft :=
  match draft.ranges with
  | (low, _) :: others =>
    if high < low then .error (.invalidRange low high)
    else .ok ⟨(low, high) :: others, false, false⟩
  | [] => .ok ⟨[(high, high)], false, false⟩

/-- Read a class behind its opening bracket up to its closing one.  The result is nothing if the
class is never closed, and otherwise its ranges and what follows. -/
def classRanges : ClassDraft → List Char → Except Cause (Option (List (Char × Char) × List Char))
  | _, [] => .ok none
  | draft, character :: rest =>
    if character == ']' && !draft.first then
      let ranges := if draft.inRange then ('-', '-') :: draft.ranges else draft.ranges
      .ok (some (ranges.reverse, rest))
    else if character == '-' && !draft.first && !draft.inRange then
      classRanges { draft with inRange := true } rest
    else if draft.inRange then
      match draft.close character with
      | .ok closed => classRanges closed rest
      | .error cause => .error cause
    else classRanges ⟨(character, character) :: draft.ranges, false, false⟩ rest

/-- Read a class whose opening bracket was read. -/
def readClass (options : Options) (state : State) : Except Cause State :=
  let (negated, content) := match state.rest with
    | '!' :: rest => (true, rest)
    | '^' :: rest => (true, rest)
    | rest => (false, rest)
  match classRanges ⟨[], false, true⟩ content with
  | .error cause => .error cause
  | .ok (some (ranges, rest)) => .ok ((state.push (.charClass negated ranges)).skip ']' rest)
  | .ok none =>
    if options.allowsOpenClass then
      .ok { state.push (.literal '[') with openClass := true, last? := some '[' }
    else .error .unclosedClass

/-- The part that two stars stand for after other parts. -/
def foldersAfter (isLast : Bool) : Token → Token
  | .foldersFirst => .foldersFirst
  | .foldersLast => .foldersLast
  | _ => if isLast then .foldersLast else .foldersBetween

/-- Read the second of two stars.  `before?` is the character in front of the first one. -/
def readStars (state : State) (before? : Option Char) : State :=
  let plainStars := (state.push .star).push .star
  if (state.branches.headD []).isEmpty then
    match state.rest with
    | [] => state.push .foldersFirst
    | '/' :: rest => (state.push .foldersFirst).skip '/' rest
    | _ => plainStars
  else
    let inGroup := 2 ≤ state.branches.length
    let mayBeFolders :=
      before? == some '/' || (inGroup && (before? == some ',' || before? == some '\x7b'))
    if !mayBeFolders then plainStars
    else
      match state.rest with
      | [] => state.replaceLast (foldersAfter true)
      | '/' :: rest => (state.replaceLast (foldersAfter false)).skip '/' rest
      | next :: _ =>
        if inGroup && (next == ',' || next == '\x7d') then state.replaceLast (foldersAfter true)
        else plainStars

/-- Close the innermost group of alternatives. -/
def closeGroup (state : State) : Except Cause State :=
  match state.groups with
  | [] => .error .unopenedAlternates
  | outer :: groups =>
    let count := state.branches.length - outer
    let branches := ((state.branches.take count).map List.reverse).reverse
    .ok ({ state with branches := state.branches.drop count, groups := groups }.push
      (.alternates branches))

/-- Read what begins with a character. -/
def readToken (options : Options) (state : State) (character : Char) (rest : List Char) :
    Except Cause State :=
  let before? := state.last?
  let state := state.skip character rest
  match character with
  | '?' => .ok (state.push .any)
  | '*' =>
    match rest with
    | '*' :: others => .ok (readStars (state.skip '*' others) before?)
    | _ => .ok (state.push .star)
  | '[' => if state.openClass then .ok (state.push (.literal '[')) else readClass options state
  | '\x7b' =>
    .ok { state with
      branches := [] :: state.branches, groups := state.branches.length :: state.groups }
  | '\x7d' => closeGroup state
  | ',' =>
    if state.groups.isEmpty then .ok (state.push (.literal ','))
    else .ok { state with branches := [] :: state.branches }
  | '\\' =>
    match rest with
    | [] => .error .danglingEscape
    | escaped :: others => .ok ((state.push (.literal escaped)).skip escaped others)
  | other => .ok (state.push (.literal other))

/-- Read all parts of a glob; the fuel bounds their number. -/
def readFrom (options : Options) : Nat → State → Except Cause State
  | 0, state => .ok state
  | fuel + 1, state =>
    match state.rest with
    | [] => .ok state
    | character :: rest =>
      match readToken options state character rest with
      | .ok next => readFrom options fuel next
      | .error cause => .error cause

/-- The parts of a glob. -/
def tokens (options : Options) (text : String) : Except Cause (List Token) :=
  match readFrom options (text.length + 1) ⟨text.toList, none, [[]], [], false⟩ with
  | .error cause => .error cause
  | .ok state =>
    match state.branches with
    | [branch] => .ok branch.reverse
    | _ => .error .unclosedAlternates

/-! ## Matching -/

/-- The bytes of a text, each as a character of its own. -/
def byteText (text : String) : List Char :=
  text.toUTF8.toList.map fun byte => Char.ofNat byte.toNat

/-- The ranges of bytes that a range of characters stands for: the range goes from the last byte of
its first character to the first byte of its last one, and the other bytes stand for themselves. -/
def byteRanges (range : Char × Char) : List (Char × Char) :=
  let single (byte : Char) : Char × Char := (byte, byte)
  let low := byteText (String.singleton range.1)
  let high := byteText (String.singleton range.2)
  if range.1 == range.2 then low.map single
  else
    low.dropLast.map single ++ [(low.getLastD range.1, high.headD range.2)] ++
      (high.drop 1).map single

/-- The byte belongs to a class. -/
def inClass (negated : Bool) (ranges : List (Char × Char)) (byte : Char) : Bool :=
  negated != (ranges.flatMap byteRanges).any fun (low, high) => low ≤ byte && byte ≤ high

/-- A slash. -/
def slash : Pattern := .one (· == '/')

/-- Any number of bytes. -/
def anything : Pattern := .repeated fun _ => true

mutual

/-- The pattern of a part of a glob. -/
def tokenPattern (options : Options) : Token → Pattern
  | .literal character =>
    Pattern.sequence ((byteText (String.singleton character)).map fun expected =>
      .one (· == expected))
  | .any => .one fun byte => !(options.stopsAtSlash && byte == '/')
  | .star => .repeated fun byte => !(options.stopsAtSlash && byte == '/')
  | .foldersFirst => .either (Pattern.optional slash) (.both anything slash)
  | .foldersLast => .both slash anything
  | .foldersBetween => .either slash (.both slash (.both anything slash))
  | .charClass negated ranges => .one (inClass negated ranges)
  | .alternates branches =>
    match branchPatterns options branches with
    | [] => .empty
    | patterns => Pattern.choice patterns

/-- The pattern of the parts of a glob, one after the other. -/
def tokensPattern (options : Options) : List Token → Pattern
  | [] => .empty
  | token :: rest => .both (tokenPattern options token) (tokensPattern options rest)

/-- The patterns of alternatives; those without content do not count. -/
def branchPatterns (options : Options) : List (List Token) → List Pattern
  | [] => []
  | branch :: rest =>
    if isVoidBranch branch then branchPatterns options rest
    else tokensPattern options branch :: branchPatterns options rest

/-- The part has no content: it is a group without any alternative with content. -/
def isVoid : Token → Bool
  | .alternates branches => areVoidBranches branches
  | _ => false

/-- No part of the branch has content. -/
def isVoidBranch : List Token → Bool
  | [] => true
  | token :: rest => isVoid token && isVoidBranch rest

/-- No branch has content. -/
def areVoidBranches : List (List Token) → Bool
  | [] => true
  | branch :: rest => isVoidBranch branch && areVoidBranches rest

end

end Glob

/-- A glob that was read. -/
structure Glob where
  pattern : Pattern

namespace Glob

/-- The pattern of a whole glob; two stars alone match everything. -/
def patternOf (options : Options) (tokens : List Token) : Pattern :=
  match tokens with
  | [.foldersFirst] => .both anything .finish
  | _ => .both (tokensPattern options tokens) .finish

/-- Read a glob. -/
def parse (options : Options) (text : String) : Except Cause Glob :=
  (tokens options text).map fun tokens => ⟨patternOf options tokens⟩

/-- What is wrong with a text that is no glob, in words. -/
def faultMessage (text : String) (cause : Cause) : String :=
  "error parsing glob '" ++ text ++ "': " ++ cause.message

/-- The glob matches the whole path. -/
def accepts (glob : Glob) (path : String) : Bool :=
  (glob.pattern.matchAt (fun _ => some ()) ⟨none, 0, byteText path, none⟩).isSome

end Glob
end QualityGate
