import LineShell.Log.Directive
/-!
# Log filters

A log record has a level, a *source*, the part of the shell that wrote it, and fields. A filter is a
list of directives, written with commas between them. Directives about spans and about the values of
fields decide nothing, since no record lies in a span. The others stand in a fixed order, the most
specific first, and of two about the same records the one written last stays; the first directive
that is about a record decides.

* `Filter.parse` reads the written form.
* `Filter.shows` decides about a record; `Filter.shows_of_shows` says that a filter which shows a
  record shows the graver ones with the same source and fields too.
-/

namespace LineShell.Log

/-- A filter is a list of directives in the order in which they are asked. -/
structure Filter where
  directives : List Directive
  deriving DecidableEq, Repr

namespace Filter

/-- The filter that shows everything up to a level. -/
def upTo (level : Level) : Filter := ⟨[⟨none, none, none, level.rank⟩]⟩

/-- Enters a directive at its place. -/
def insert (d : Directive) : List Directive → List Directive
  | [] => [d]
  | e :: rest =>
    if d.sameScope e then d :: rest
    else if d.precedes e then d :: e :: rest
    else e :: insert d rest

/-- The filter of directives in the order in which they are written. Without any directive only
errors are shown. -/
def ofDirectives (written : List Directive) : Filter :=
  if written.isEmpty then upTo .error
  else ⟨(written.filter Directive.isStatic).foldl (fun ds d => insert d ds) []⟩

/-- Reads a filter. Empty directives are skipped. -/
def parse (written : Text) : Except Fault Filter := do
  let parts := (Text.pieces (· == ',') written).filter (fun part => !part.isEmpty)
  return ofDirectives (← parts.mapM Directive.parse)

/-- The directive that decides about records from a source with the given fields. -/
def decisive? (f : Filter) (source : Text) (fields : List Text) : Option Directive :=
  f.directives.find? (fun d => d.caresAbout source fields)

/-- Whether a record is shown. -/
def shows (f : Filter) (source : Text) (fields : List Text) (level : Level) : Bool :=
  match f.decisive? source fields with
  | some d => level.rank ≤ d.rank
  | none => false

theorem shows_of_shows {f : Filter} {source : Text} {fields : List Text} {grave light : Level}
    (h : f.shows source fields light = true) (hr : grave.rank ≤ light.rank) :
    f.shows source fields grave = true := by
  unfold shows at *
  split at h
  · simp only [decide_eq_true_eq] at *
    omega
  · simp at h

end Filter

end LineShell.Log
