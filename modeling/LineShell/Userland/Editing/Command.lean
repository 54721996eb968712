import LineShell.Userland.Expression.Basic
/-!
# Editing commands

An editing script is a list of commands. Each acts on the lines that its address selects, or on all
others when it is negated. Commands between braces are skipped together, and jumps lead to labels;
`Command.target` is where a command that is skipped or jumps goes on.
-/

namespace LineShell.Userland.Editing

/-- An expression in a script: none stands for the one used last. -/
structure Sample where
  expression : Option Expression
  folds : Bool
  hasLines : Bool
  groups : Nat
  deriving DecidableEq, Repr

/-- Which lines one part of an address selects. -/
inductive Selector where
  | line (number : Nat)
  | last
  | matching (s : Sample)
  /-- Every so many lines from the first one on. -/
  | every (first step : Nat)
  deriving DecidableEq, Repr

/-- Where a range of lines ends. -/
inductive RangeEnd where
  | at_ (s : Selector)
  /-- So many lines behind the first one. -/
  | after (count : Nat)
  /-- At the next multiple. -/
  | multiple (number : Nat)
  deriving DecidableEq, Repr

/-- Which lines a command acts on. -/
structure Address where
  first : Selector
  stop : Option RangeEnd
  deriving DecidableEq, Repr

/-- How letters are changed in what a substitution puts in. -/
inductive Letters where
  | asTheyAre
  | capital
  | small
  | nextCapital
  | nextSmall
  deriving DecidableEq, Repr

/-- A part of what a substitution puts in. -/
inductive Piece where
  | bytes (text : Bytes)
  /-- What a group has found; the group 0 is the whole. -/
  | group (number : Nat)
  | letters (l : Letters)
  deriving DecidableEq, Repr

/-- A substitution. -/
structure Substitution where
  sample : Sample
  pieces : List Piece
  /-- Which of the parts found is the first to be replaced. -/
  nth : Nat
  all : Bool
  prints : Bool
  file : Option Bytes
  deriving DecidableEq, Repr

/-- When a jump is made. -/
inductive JumpWhen where
  | always
  | replaced
  | notReplaced
  deriving DecidableEq, Repr

/-- What a command does. -/
inductive Action where
  | openBlock
  | closeBlock
  | label (name : Bytes)
  | jump (on : JumpWhen) (label : Bytes)
  | append (text : Bytes)
  | insert (text : Bytes)
  | change (text : Bytes)
  | delete
  | deleteFirst
  | print
  | printFirst
  | next
  | appendNext
  | hold
  | appendToHeld
  | get
  | appendHeld
  | swap
  | clear
  | number
  | fileName
  | list (width : Option Nat)
  | quit (code : Nat) (silent : Bool)
  | readFile (path : Bytes)
  | readLine (path : Bytes)
  | writeFile (path : Bytes)
  | writeFirst (path : Bytes)
  | substitute (s : Substitution)
  | transliterate (pairs : List (UInt8 × UInt8))
  | nothing
  deriving DecidableEq, Repr

/-- A command of a script. -/
structure Command where
  address : Option Address
  negated : Bool
  action : Action
  /-- Where the script goes on when a block is skipped or a jump is made. -/
  target : Nat
  deriving DecidableEq, Repr

/-- Where blocks that are open end, each found by the number of braces opened since. -/
def blockEnd : Nat → Nat → List Command → Nat
  | _, i, [] => i
  | depth, i, c :: rest =>
    match c.action with
    | .openBlock => blockEnd (depth + 1) (i + 1) rest
    | .closeBlock => if depth = 0 then i else blockEnd (depth - 1) (i + 1) rest
    | _ => blockEnd depth (i + 1) rest

/-- The place of a label. -/
def labelPlace? (commands : List Command) (name : Bytes) : Option Nat :=
  commands.findIdx? (fun c => c.action == .label name)

/-- The commands with their targets; fails with a label that there is not, the last one of several.
A jump without a label leads to the end. -/
def linked (all : List Command) : Nat → List Command → Except Bytes (List Command)
  | _, [] => .ok []
  | i, c :: rest => do
    let others ← linked all (i + 1) rest
    let target ← match c.action with
      | .openBlock => .ok (blockEnd 0 (i + 1) rest)
      | .jump _ name =>
        if name.isEmpty then .ok all.length
        else match labelPlace? all name with
          | some place => .ok place
          | none => .error name
      | _ => .ok 0
    .ok ({ c with target := target } :: others)

end LineShell.Userland.Editing
