import ThemedViews.Text.Basic

/-!
# Parsing expressions

A grammar gives each rule a parsing expression: choices are tried in order, repetitions are greedy, and nothing
that was matched is given up again. A rule also says how blanks are treated in its body and whether it leaves a
node in the tree. A run reports the tree of what it matched and, for error messages, the furthest place at which a
rule failed, or succeeded where it was forbidden.
-/

namespace ThemedViews.Template

/-- A parsing expression over the rules `R`. -/
inductive Peg (R : Type) where
  /-- Matches the empty text. -/
  | nothing
  /-- Matches one character. -/
  | any
  /-- Matches the given text. -/
  | exactly (text : Text)
  /-- Matches one character of a range. -/
  | between (low high : Char)
  /-- Matches two expressions one after the other. -/
  | followedBy (first second : Peg R)
  /-- Matches the first expression, or else the second. -/
  | orElse (first second : Peg R)
  /-- Matches an expression as often as possible; `again` says that it has matched before. -/
  | repeated (again : Bool) (inner : Peg R)
  /-- Matches the empty text where the expression does not match. -/
  | absent (inner : Peg R)
  /-- Matches a rule. -/
  | call (rule : R)

namespace Peg

variable {R : Type}

/-- The given text. -/
def word (text : String) : Peg R :=
  exactly text.toList

def all : List (Peg R) → Peg R
  | [] => nothing
  | [last] => last
  | first :: rest => followedBy first (all rest)

/-- The first of the expressions that matches. -/
def oneOf : List (Peg R) → Peg R
  | [] => absent nothing
  | [last] => last
  | first :: rest => orElse first (oneOf rest)

/-- The expression or nothing. -/
def optional (inner : Peg R) : Peg R :=
  orElse inner nothing

/-- The expression any number of times. -/
def many (inner : Peg R) : Peg R :=
  repeated false inner

/-- The expression at least once. -/
def some (inner : Peg R) : Peg R :=
  followedBy inner (many inner)

end Peg

/-- How a rule treats its body. -/
inductive Kind where
  /-- Leaves a node; blanks are treated as by the caller. -/
  | normal
  /-- Leaves a node; its body skips no blanks, and no rule of this kind or a normal one is seen in it. -/
  | atomic
  /-- Leaves a node even inside an atomic rule; its body skips no blanks. -/
  | compound
  /-- Leaves a node even inside an atomic rule; its body skips blanks between the parts. -/
  | spaced
  deriving Repr, DecidableEq

/-- What is going on around an expression: whether blanks are skipped, and whether rules are seen. -/
inductive Mode where
  | spaced
  | compound
  | atomic
  deriving Repr, DecidableEq

/-- Whether an expression is being matched, or only tried where it must be absent. -/
inductive Sight where
  | forward
  | forbidden
  | allowed
  deriving Repr, DecidableEq

/-- The sight inside one more `absent`. -/
def Sight.inverted : Sight → Sight
  | .forward => .forbidden
  | .forbidden => .allowed
  | .allowed => .forbidden

inductive Tree (R : Type) where
  | node (rule : R) (text : Text) (children : List (Tree R))

/-- A rule's kind and body, for every rule. -/
structure Grammar (R : Type) where
  kind : R → Kind
  body : R → Peg R
  isBlank : Char → Bool

/-- A place in a text: what is left, and how many characters have been passed. -/
structure Cursor where
  rest : Text
  passed : Nat

/-- The outcome of matching. The last one says that the allowance of steps did not suffice. -/
inductive Outcome (R : Type) where
  | matched (trees : List (Tree R)) (cursor : Cursor)
  | failed
  | unfinished

namespace Cursor

/-- The place behind `count` more characters. -/
def advance (cursor : Cursor) (count : Nat) : Cursor :=
  ⟨cursor.rest.drop count, cursor.passed + count⟩

/-- The place behind the blanks that stand here. -/
def skip (isBlank : Char → Bool) (cursor : Cursor) : Cursor :=
  cursor.advance (cursor.rest.takeWhile isBlank).length

end Cursor

namespace Grammar

variable {R : Type}

def seenIn : Kind → Mode → Mode
  | .compound, _ => .compound
  | .spaced, _ => .spaced
  | _, mode => mode

def bodyMode : Kind → Mode → Mode
  | .atomic, _ => .atomic
  | kind, mode => seenIn kind mode

/-- The furthest notable place after a rule that began at `start` has succeeded or failed. -/
def noted (mode : Mode) (sight : Sight) (succeeded : Bool) (start furthest : Nat) : Nat :=
  if mode ≠ .atomic && succeeded == (sight == .forbidden) then max furthest start else furthest

def skipped (grammar : Grammar R) (mode : Mode) (cursor : Cursor) : Cursor :=
  if mode = .spaced then cursor.skip grammar.isBlank else cursor

/-- Matches an expression at a place, in at most `fuel` nested steps. Answers with the outcome and the furthest
notable place. -/
def run (grammar : Grammar R) : (fuel : Nat) → Mode → Sight → Peg R → Cursor → Nat → Outcome R × Nat
  | 0, _, _, _, _, furthest => (.unfinished, furthest)
  | fuel + 1, mode, sight, expression, cursor, furthest =>
      match expression with
      | .nothing => (.matched [] cursor, furthest)
      | .any => if cursor.rest.isEmpty then (.failed, furthest) else (.matched [] (cursor.advance 1), furthest)
      | .exactly text =>
          if text.isPrefixOf cursor.rest then (.matched [] (cursor.advance text.length), furthest)
          else (.failed, furthest)
      | .between low high =>
          match cursor.rest.head? with
          | some character =>
              if low ≤ character && character ≤ high then (.matched [] (cursor.advance 1), furthest)
              else (.failed, furthest)
          | none => (.failed, furthest)
      | .followedBy first second =>
          match run grammar fuel mode sight first cursor furthest with
          | (.matched left middle, furthest) =>
              match run grammar fuel mode sight second (grammar.skipped mode middle) furthest with
              | (.matched right behind, furthest) => (.matched (left ++ right) behind, furthest)
              | other => other
          | other => other
      | .orElse first second =>
          match run grammar fuel mode sight first cursor furthest with
          | (.failed, furthest) => run grammar fuel mode sight second cursor furthest
          | other => other
      | .repeated again inner =>
          let start := if again then grammar.skipped mode cursor else cursor
          match run grammar fuel mode sight inner start furthest with
          | (.matched left middle, furthest) =>
              match run grammar fuel mode sight (.repeated true inner) middle furthest with
              | (.matched right behind, furthest) => (.matched (left ++ right) behind, furthest)
              | other => other
          | (.failed, furthest) => (.matched [] cursor, furthest)
          | other => other
      | .absent inner =>
          match run grammar fuel mode sight.inverted inner cursor furthest with
          | (.matched _ _, furthest) => (.failed, furthest)
          | (.failed, furthest) => (.matched [] cursor, furthest)
          | other => other
      | .call rule =>
          let kind := grammar.kind rule
          let outcome := run grammar fuel (bodyMode kind mode) sight (grammar.body rule) cursor furthest
          let seen := seenIn kind mode
          match outcome with
          | (.matched trees behind, furthest) =>
              let tree := .node rule (cursor.rest.take (behind.passed - cursor.passed)) trees
              let leaves := seen ≠ .atomic && sight = .forward
              (.matched (if leaves then [tree] else trees) behind, noted seen sight true cursor.passed furthest)
          | (.failed, furthest) => (.failed, noted seen sight false cursor.passed furthest)
          | other => other

end Grammar

end ThemedViews.Template
