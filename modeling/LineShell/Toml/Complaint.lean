import LineShell.Text.Utf8
/-!
# Complaints about a document

A place in a document is given by what follows it, and a stretch by its two places. A complaint says
what is wrong with a stretch; `Complaint.shown` writes it with the line that the stretch begins in,
and with carets under the stretch.
-/

namespace LineShell.Toml

/-- A stretch of a document: what follows its beginning, and what follows its end. -/
structure Span where
  start : Text
  stop : Text
  deriving DecidableEq, Repr, Inhabited

namespace Span

/-- The stretch of one character, nothing at the end of the document. -/
def ofCharacter (rest : Text) : Span := ⟨rest, rest.drop 1⟩

/-- How many bytes a stretch has. -/
def size (s : Span) : Nat := s.start.bytes.length - s.stop.bytes.length

/-- Two stretches and what lies between them. -/
def cover (first last : Span) : Span := ⟨first.start, last.stop⟩

end Span

/-- Where a place lies: the lines before it, what stands before it in its line, and its line. -/
structure Position where
  line : Nat
  column : Nat
  content : Text
  deriving DecidableEq, Repr

/-- The position of a place. The end of the document lies one step behind its last character.
Columns count characters, but a character beyond ASCII stands as many columns behind the beginning
of its line as there are bytes before it. -/
def Position.ofPlace (source rest : Text) : Position :=
  let before := source.take (source.length - rest.length)
  let (before, here) : Text × Text := match rest with
    | [] => (before.dropLast, before.getLast?.toList)
    | c :: _ => (before, [c])
  let lineBefore := (before.reverse.takeWhile (· != '\n')).reverse
  let column := match rest with
    | [] => lineBefore.length + here.length
    | c :: _ => if c.toNat < 0x80 then lineBefore.length else (Text.bytes lineBefore).length
  { line := before.count '\n'
    column := column
    content := (lineBefore ++ here ++ rest.drop 1).takeWhile (· != '\n') }

/-- What is wrong with a stretch of a document. -/
structure Complaint where
  span : Span
  message : Text
  deriving DecidableEq, Repr

/-- A complaint about a document, as it is shown. There is one caret at least, and no caret stands
behind the end of the line. -/
def Complaint.shown (source : Text) (c : Complaint) : Text :=
  let p := Position.ofPlace source c.span.start
  let number := Text.ofNat (p.line + 1)
  let margin := List.replicate (number.length + 1) ' ' ++ ['|']
  let carets := max 1 (min c.span.size (p.content.bytes.length - p.column))
  Text.unlines
    [Text.lit "TOML parse error at line " ++ number ++ Text.lit ", column " ++
        Text.ofNat (p.column + 1),
      margin,
      number ++ Text.lit " | " ++ p.content,
      margin ++ List.replicate (p.column + 1) ' ' ++ List.replicate carets '^',
      c.message]

end LineShell.Toml
