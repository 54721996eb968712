import LineShell.Proofs.Positions
import LineShell.Proofs.TrailingBlanks
/-!
# The grammar of lines

The parts that a line is made of, `Line.Parts`, and the lines that they make up:
`Line.Parts.Lawful` says what each part may hold, and `Line.Parts.code` puts them in their places.
Lawful parts and code without a comment are the same thing, read in two directions
(`Line.Parts.ofCode_code` and `Line.Parts.ofCode_lawful`), so that every line has exactly one
reading.

The headline is `Shape.ofLine_reads`: the shape of a line is what its one reading says, and finding
it by positions in the bytes never leaves the line nor cuts a character.
-/

namespace LineShell

variable {operator t l r : Text} {x : Char}

/-! ### Leftmost cuts -/

/-- A text is cut where the operator stands first. -/
theorem cutAt_eq_some_iff :
    cutAt operator t = some (l, r) ↔
      t = l ++ operator ++ r ∧ ∀ l' r', t = l' ++ operator ++ r' → l.length ≤ l'.length := by
  constructor
  · exact fun h => ⟨cutAt_eq_some h, fun l' r' ht => length_le_of_cutAt h ht⟩
  · rintro ⟨ht, hleft⟩
    cases hcut : cutAt operator t with
    | none => exact absurd ⟨l, r, ht.symm⟩ (cutAt_eq_none_iff.1 hcut)
    | some cut =>
      obtain ⟨l₀, r₀⟩ := cut
      have ht₀ := cutAt_eq_some hcut
      have hlength : l₀.length = l.length :=
        Nat.le_antisymm (length_le_of_cutAt hcut ht) (hleft l₀ r₀ ht₀)
      rw [ht, List.append_assoc, List.append_assoc] at ht₀
      obtain ⟨rfl, hrest⟩ := List.append_inj ht₀ hlength.symm
      rw [List.append_cancel_left hrest]

/-- Of two parts of one text in front of something, the longer goes on where the shorter ends. -/
theorem eq_append_of_length_lt {l l' y y' : Text} (h : l ++ y = l' ++ y')
    (hlength : l'.length < l.length) : ∃ s, s ≠ [] ∧ l = l' ++ s ∧ y' = s ++ y := by
  rcases List.append_eq_append_iff.1 h with ⟨s, hl, -⟩ | ⟨s, hl, hy⟩
  · rw [hl, List.length_append] at hlength
    omega
  · refine ⟨s, ?_, hl, hy⟩
    rintro rfl
    rw [hl, List.append_nil] at hlength
    omega

theorem cutAt_char_eq_some_iff : cutAt [x] t = some (l, r) ↔ t = l ++ x :: r ∧ x ∉ l := by
  rw [cutAt_eq_some_iff, List.append_assoc, List.singleton_append]
  refine and_congr_right fun ht => ?_
  constructor
  · intro hleft hmem
    obtain ⟨a, b, rfl⟩ := List.append_of_mem hmem
    have hle := hleft a (b ++ x :: r) (by rw [ht]; simp)
    rw [List.length_append, List.length_cons] at hle
    omega
  · intro hx l' r' ht'
    refine Nat.le_of_not_lt fun hlt => ?_
    rw [ht, List.append_assoc] at ht'
    obtain ⟨s, hne, rfl, hs⟩ := eq_append_of_length_lt ht' hlt
    obtain ⟨c, s, rfl⟩ := List.exists_cons_of_ne_nil hne
    rw [List.singleton_append, List.cons_append, List.cons.injEq] at hs
    exact hx (List.mem_append_right _ (hs.1 ▸ List.mem_cons_self))

theorem infix_char_iff : [x] <:+: t ↔ x ∈ t := by
  constructor
  · exact fun h => h.subset (List.mem_singleton_self x)
  · intro h
    obtain ⟨a, b, rfl⟩ := List.append_of_mem h
    exact ⟨a, b, List.append_assoc a [x] b⟩

theorem cutAt_char_eq_none_iff : cutAt [x] t = none ↔ x ∉ t := by
  rw [cutAt_eq_none_iff, infix_char_iff]

/-- A doubled character stands first where neither it nor half of it, at the end, stands before. -/
theorem cutAt_twice_eq_some_iff :
    cutAt [x, x] t = some (l, r) ↔ t = l ++ x :: x :: r ∧ ¬[x, x] <:+: l ∧ ¬[x] <:+ l := by
  have hcode : l ++ [x, x] ++ r = l ++ x :: x :: r := List.append_assoc l [x, x] r
  rw [cutAt_eq_some_iff, hcode]
  refine and_congr_right fun ht => ?_
  constructor
  · intro hleft
    refine ⟨?_, ?_⟩
    · rintro ⟨a, b, rfl⟩
      have hle := hleft a (b ++ x :: x :: r) (by rw [ht, List.append_assoc])
      rw [List.length_append, List.length_append, List.length_cons] at hle
      omega
    · rintro ⟨a, rfl⟩
      have hle := hleft a (x :: r) (by rw [ht]; simp)
      rw [List.length_append, List.length_singleton] at hle
      omega
  · rintro ⟨hdouble, hhalf⟩ l' r' ht'
    refine Nat.le_of_not_lt fun hlt => ?_
    rw [ht, List.append_assoc] at ht'
    obtain ⟨s, hne, hl, hs⟩ := eq_append_of_length_lt ht' hlt
    -- what reaches into `l` is the operator or its first half
    match s, hne with
    | [c], _ =>
      obtain ⟨rfl, -⟩ := List.cons.inj hs
      exact hhalf ⟨l', hl.symm⟩
    | c :: d :: s, _ =>
      have hc : x = c := (List.cons.inj hs).1
      have hd : x = d := (List.cons.inj (List.cons.inj hs).2).1
      subst hc hd
      exact hdouble ⟨l', s, by rw [hl, List.append_assoc]; rfl⟩

/-- Looking for a character cuts where it stands first. -/
theorem cutAt_char (x : Char) (t : Text) :
    cutAt [x] t = (Text.after (· == x) t).map fun rest => (Text.before (· == x) t, rest) := by
  cases hafter : Text.after (· == x) t with
  | none =>
    have hnot : x ∉ t := fun hmem => by
      have hx := Text.after_eq_none_iff.1 hafter x hmem
      rw [beq_self_eq_true] at hx
      exact Bool.noConfusion hx
    exact cutAt_char_eq_none_iff.2 hnot
  | some rest =>
    obtain ⟨c, hc, ht⟩ := Text.before_append_after hafter
    rw [eq_of_beq hc] at ht
    have hbefore : x ∉ Text.before (· == x) t := fun hmem => by
      have hx := Text.mem_before hmem
      rw [beq_self_eq_true] at hx
      exact Bool.noConfusion hx
    exact cutAt_char_eq_some_iff.2 ⟨ht, hbefore⟩

/-- What stands before a character, all of it if there is none. -/
theorem before_char (x : Char) (t : Text) :
    Text.before (· == x) t = ((cutAt [x] t).map Prod.fst).getD t := by
  rw [cutAt_char]
  cases hafter : Text.after (· == x) t with
  | some rest => rfl
  | none =>
    have hnone : t.dropWhile (fun c => !(c == x)) = [] :=
      Text.dropWhile_eq_nil fun c hc => by rw [Text.after_eq_none_iff.1 hafter c hc]; rfl
    have hall := List.takeWhile_append_dropWhile (p := fun c => !(c == x)) (l := t)
    rwa [hnone, List.append_nil] at hall

/-! ### Comments -/

/-- What a line says before its comment. -/
def IsCode (line code : Text) : Prop :=
  '#' ∉ code ∧ (line = code ∨ ∃ comment, line = code ++ '#' :: comment)

theorem isCode_iff (line c : Text) : IsCode line c ↔ c = code line := by
  have hcode : code line = ((cutAt ['#'] line).map Prod.fst).getD line := before_char '#' line
  rw [hcode]
  constructor
  · rintro ⟨hfree, rfl | ⟨comment, hline⟩⟩
    · rw [cutAt_char_eq_none_iff.2 hfree]
      rfl
    · rw [cutAt_char_eq_some_iff.2 ⟨hline, hfree⟩]
      rfl
  · rintro rfl
    cases hcut : cutAt ['#'] line with
    | none => exact ⟨cutAt_char_eq_none_iff.1 hcut, .inl rfl⟩
    | some cut =>
      obtain ⟨hline, hfree⟩ := cutAt_char_eq_some_iff.1 hcut
      exact ⟨hfree, .inr ⟨cut.2, hline⟩⟩

/-! ### Trimming -/

namespace Text

/-- Taking the blanks off both ends of a text, and nothing else, leaves another. -/
structure Trims (u t : Text) : Prop where
  /-- Only blanks are taken off. -/
  blanks : ∃ b b', Blanks b ∧ Blanks b' ∧ u = b ++ t ++ b'
  /-- No blank is left at the start. -/
  head : ∀ c ∈ t.head?, isBlank c = false
  /-- No blank is left at the end. -/
  last : ∀ c ∈ t.getLast?, isBlank c = false

theorem dropWhile_of_head? {p : Char → Bool} (h : ∀ c ∈ t.head?, p c = false) :
    t.dropWhile p = t := by
  cases t with
  | nil => rfl
  | cons c t => rw [List.dropWhile_cons, h c rfl, if_neg Bool.false_ne_true]

theorem trim_of_blanks {b : Text} (h : Blanks b) (t : Text) : trim (b ++ t) = trim t := by
  unfold trim
  rw [List.dropWhile_append_of_pos h]

/-- **A text trims to one other, and that is its trimmed text.** -/
theorem trims_iff (u t : Text) : Trims u t ↔ t = trim u := by
  constructor
  · rintro ⟨⟨b, b', hb, hb', rfl⟩, hhead, hlast⟩
    rw [trim_append _ hb', trim_of_blanks hb]
    unfold trim dropEndWhile
    rw [dropWhile_of_head? hhead, dropWhile_of_head? (by rwa [List.head?_reverse]),
      List.reverse_reverse]
  · rintro rfl
    -- What is dropped at either end is blank, and so is what would have to be dropped there.
    obtain ⟨b', hb', hu⟩ := dropEndWhile_append_eq isBlank (u.dropWhile isBlank)
    refine ⟨⟨u.takeWhile isBlank, b', List.all_eq_true.1 List.all_takeWhile, hb', ?_⟩, ?_, ?_⟩
    · unfold trim
      rw [List.append_assoc, ← hu, List.takeWhile_append_dropWhile]
    · intro c hc
      have hhead := head?_dropWhile isBlank u c
      rw [hu, List.head?_append] at hhead
      refine hhead ?_
      unfold trim at hc
      rw [Option.mem_def.1 hc]
      rfl
    · unfold trim dropEndWhile
      rw [List.getLast?_reverse]
      exact head?_dropWhile isBlank _

end Text

/-! ### The parts of code -/

namespace Line

/-- The parts that the code of a line is made of. -/
inductive Parts where
  /-- No operator at all. -/
  | plain (command : Text)
  /-- A bar, and what stands behind a second one. -/
  | piped (left right : Text) (dropped : Option Text)
  /-- An operator, and what stands behind it. -/
  | redirected (command behind : Text) (mode : RedirectMode)
  deriving DecidableEq

namespace Parts

/-- The code that the parts make up. -/
def code : Parts → Text
  | plain command => command
  | piped left right none => left ++ '|' :: right
  | piped left right (some dropped) => left ++ '|' :: (right ++ '|' :: dropped)
  | redirected command behind mode => command ++ mode.operator ++ behind

/-- What the parts must be free of for each operator to be the one that the line is split on. -/
def Lawful : Parts → Prop
  | plain command => '|' ∉ command ∧ '>' ∉ command
  | piped left right _ => '|' ∉ left ∧ '|' ∉ right
  | redirected command behind .append =>
    '|' ∉ command ++ ['>', '>'] ++ behind ∧ ¬['>', '>'] <:+: command ∧ ¬['>'] <:+ command
  | redirected command behind .truncate =>
    '|' ∉ command ++ ['>'] ++ behind ∧ ¬['>', '>'] <:+: command ++ ['>'] ++ behind ∧ '>' ∉ command

/-- The shape that the parts are read as. -/
def Reads : Parts → Shape → Prop
  | plain command, shape => shape = .plain command
  | piped left right _, shape => shape = .piped left right
  | redirected command behind mode, shape =>
    ∃ target, Text.Trims behind target ∧ shape = .redirected command target mode

/-- The parts of code. -/
def ofCode (code : Text) : Parts :=
  match cutAt ['|'] code with
  | some (left, rest) =>
    match cutAt ['|'] rest with
    | some (right, dropped) => piped left right (some dropped)
    | none => piped left rest none
  | none =>
    match cutAt ['>', '>'] code with
    | some (command, behind) => redirected command behind .append
    | none =>
      match cutAt ['>'] code with
      | some (command, behind) => redirected command behind .truncate
      | none => plain code

variable {code : Text}

/-- **Code is made of lawful parts.** -/
theorem ofCode_lawful (code : Text) : (ofCode code).Lawful ∧ (ofCode code).code = code := by
  unfold ofCode
  split
  · rename_i left rest hbar
    obtain ⟨hcode, hleft⟩ := cutAt_char_eq_some_iff.1 hbar
    split
    · rename_i right dropped hsecond
      obtain ⟨hrest, hright⟩ := cutAt_char_eq_some_iff.1 hsecond
      exact ⟨⟨hleft, hright⟩, by rw [hcode, hrest]; rfl⟩
    · rename_i hsecond
      exact ⟨⟨hleft, cutAt_char_eq_none_iff.1 hsecond⟩, hcode.symm⟩
  · rename_i hbar
    have hbar := cutAt_char_eq_none_iff.1 hbar
    split
    · rename_i command behind hcut
      -- No bar in the code, and so none in the command before the operator.
      have hcode := cutAt_eq_some hcut
      obtain ⟨-, hdouble, hhalf⟩ := cutAt_twice_eq_some_iff.1 hcut
      exact ⟨⟨hcode ▸ hbar, hdouble, hhalf⟩, hcode.symm⟩
    · rename_i hdouble
      have hdouble := cutAt_eq_none_iff.1 hdouble
      split
      · rename_i command behind hcut
        have hcode := cutAt_eq_some hcut
        obtain ⟨-, hsingle⟩ := cutAt_char_eq_some_iff.1 hcut
        exact ⟨⟨hcode ▸ hbar, hcode ▸ hdouble, hsingle⟩, hcode.symm⟩
      · rename_i hsingle
        exact ⟨⟨hbar, cutAt_char_eq_none_iff.1 hsingle⟩, rfl⟩

/-- **Lawful parts are found again** in the code that they make up. -/
theorem ofCode_code {parts : Parts} (h : parts.Lawful) : ofCode parts.code = parts := by
  match parts, h with
  | plain command, ⟨hbar, hoperator⟩ =>
    have hdouble : cutAt ['>', '>'] command = none :=
      cutAt_eq_none_iff.2 fun hwithin => hoperator (hwithin.subset List.mem_cons_self)
    unfold ofCode Parts.code
    rw [cutAt_char_eq_none_iff.2 hbar, hdouble, cutAt_char_eq_none_iff.2 hoperator]
  | piped left right none, ⟨hleft, hright⟩ =>
    unfold ofCode Parts.code
    rw [cutAt_char_eq_some_iff.2 ⟨rfl, hleft⟩]
    dsimp only
    rw [cutAt_char_eq_none_iff.2 hright]
  | piped left right (some dropped), ⟨hleft, hright⟩ =>
    unfold ofCode Parts.code
    rw [cutAt_char_eq_some_iff.2 ⟨rfl, hleft⟩]
    dsimp only
    rw [cutAt_char_eq_some_iff.2 ⟨rfl, hright⟩]
  -- The first half of the operator is not the end of the command, or the cut would be earlier.
  | redirected command behind .append, ⟨hbar, hdouble, hhalf⟩ =>
    have hcut : cutAt ['>', '>'] (command ++ ['>', '>'] ++ behind) = some (command, behind) :=
      cutAt_twice_eq_some_iff.2 ⟨List.append_assoc _ _ _, hdouble, hhalf⟩
    unfold ofCode Parts.code RedirectMode.operator
    dsimp only
    rw [cutAt_char_eq_none_iff.2 hbar, hcut]
  | redirected command behind .truncate, ⟨hbar, hdouble, hsingle⟩ =>
    have hcut : cutAt ['>'] (command ++ ['>'] ++ behind) = some (command, behind) :=
      cutAt_char_eq_some_iff.2 ⟨List.append_assoc _ _ _, hsingle⟩
    unfold ofCode Parts.code RedirectMode.operator
    dsimp only
    rw [cutAt_char_eq_none_iff.2 hbar, cutAt_eq_none_iff.2 hdouble, hcut]

end Parts

end Line

/-! ### Shapes -/

namespace Shape

open Line

variable {shape : Shape}

/-- The cuts that decide about the shape of code. -/
theorem ofCode_eq_cutAt (t : Text) : ofCode t =
    match cutAt ['|'] t with
    | some (left, rest) => piped left (((cutAt ['|'] rest).map Prod.fst).getD rest)
    | none =>
      match cutAt ['>', '>'] t with
      | some (command, behind) => redirected command (Text.trim behind) .append
      | none =>
        match cutAt ['>'] t with
        | some (command, behind) => redirected command (Text.trim behind) .truncate
        | none => plain t := by
  unfold ofCode
  rw [cutAt_char '|' t]
  -- The bar is looked for first, then the double operator and only then the single one.
  cases Text.after (· == '|') t with
  | some rest =>
    dsimp only [Option.map_some]
    rw [before_char '|' rest]
  | none =>
    unfold redirection? RedirectMode.operator
    dsimp only [Option.map_none]
    cases cutAt ['>', '>'] t with
    | some cut => rfl
    | none => cases cutAt ['>'] t <;> rfl

/-- The shape of code is the one that its parts are read as. -/
theorem ofCode_eq_iff (t : Text) : ofCode t = shape ↔ (Parts.ofCode t).Reads shape := by
  have hredirected : ∀ (command behind : Text) (mode : RedirectMode),
      redirected command (Text.trim behind) mode = shape ↔
        (Parts.redirected command behind mode).Reads shape := by
    intro command behind mode
    constructor
    · rintro rfl
      exact ⟨Text.trim behind, (Text.trims_iff _ _).2 rfl, rfl⟩
    · rintro ⟨target, htrims, rfl⟩
      rw [(Text.trims_iff _ _).1 htrims]
  rw [ofCode_eq_cutAt]
  unfold Parts.ofCode
  rcases cutAt ['|'] t with _ | ⟨left, rest⟩
  · rcases cutAt ['>', '>'] t with _ | ⟨command, behind⟩
    · rcases cutAt ['>'] t with _ | ⟨command, behind⟩
      · exact eq_comm
      · exact hredirected command behind .truncate
    · exact hredirected command behind .append
  · dsimp only
    rcases cutAt ['|'] rest with _ | ⟨right, dropped⟩ <;> exact eq_comm

/-- **The first operator that code holds says what shape it has.** -/
theorem ofCode_kind (t : Text) :
    ((∃ l r, ofCode t = piped l r) ↔ '|' ∈ t) ∧
    ((∃ c u, ofCode t = redirected c u .append) ↔ '|' ∉ t ∧ ['>', '>'] <:+: t) ∧
    ((∃ c u, ofCode t = redirected c u .truncate) ↔
      '|' ∉ t ∧ ¬['>', '>'] <:+: t ∧ '>' ∈ t) ∧
    ((∃ c, ofCode t = plain c) ↔ '|' ∉ t ∧ '>' ∉ t) := by
  have hsome : ∀ {operator : Text} {cut : Text × Text}, cutAt operator t = some cut →
      operator <:+: t := fun {_ cut} h => ⟨cut.1, cut.2, (cutAt_eq_some h).symm⟩
  rw [ofCode_eq_cutAt]
  cases hbar : cutAt ['|'] t with
  | some cut =>
    have hmem : '|' ∈ t := infix_char_iff.1 (hsome hbar)
    simp [hmem]
  | none =>
    have hfree : '|' ∉ t := cutAt_char_eq_none_iff.1 hbar
    cases hdouble : cutAt ['>', '>'] t with
    | some cut =>
      -- A double operator holds a single one, which is why the order of the cuts matters.
      have hwithin : ['>', '>'] <:+: t := hsome hdouble
      have hmem : '>' ∈ t := hwithin.subset List.mem_cons_self
      simp [hfree, hwithin, hmem]
    | none =>
      have hnot : ¬['>', '>'] <:+: t := cutAt_eq_none_iff.1 hdouble
      cases hsingle : cutAt ['>'] t with
      | some cut =>
        have hmem : '>' ∈ t := infix_char_iff.1 (hsome hsingle)
        simp [hfree, hnot, hmem]
      | none =>
        have hmem : '>' ∉ t := cutAt_char_eq_none_iff.1 hsingle
        simp [hfree, hnot, hmem]

/-- The shape of a line by positions in its bytes, where every slice is checked to exist. -/
def sliced? (line : Text) : Option Shape := do
  let code := ((← Text.slice? ['#'] line).map Prod.fst).getD line
  match ← Text.slice? ['|'] code with
  | some (left, rest) => return piped left (((← Text.slice? ['|'] rest).map Prod.fst).getD rest)
  | none =>
    match ← Text.slice? (RedirectMode.operator .append) code with
    | some (command, behind) => return redirected command (Text.trim behind) .append
    | none =>
      match ← Text.slice? (RedirectMode.operator .truncate) code with
      | some (command, behind) => return redirected command (Text.trim behind) .truncate
      | none => return plain code

/-- **No position that a line is split at is outside the line or inside a character.** -/
theorem sliced?_eq_some (line : Text) : sliced? line = some (ofLine line) := by
  have hslice : ∀ operator ∈ [['#'], ['|'], ['>', '>'], ['>']], ∀ t : Text,
      Text.slice? operator t = some (cutAt operator t) := by
    intro operator hoperator t
    -- All operators are ASCII: their bytes occur nowhere within another character.
    have hall : operator.all (fun c => decide (c.toNat < 0x80)) = true ∧ operator ≠ [] := by
      simp only [List.mem_cons, List.not_mem_nil, or_false] at hoperator
      rcases hoperator with rfl | rfl | rfl | rfl <;> decide
    have hascii : Text.IsAscii operator :=
      fun c hc => of_decide_eq_true (List.all_eq_true.1 hall.1 c hc)
    exact Text.slice?_eq_cutAt hascii hall.2 t
  have hcode : code line = ((cutAt ['#'] line).map Prod.fst).getD line := before_char '#' line
  unfold sliced? ofLine RedirectMode.operator
  rw [ofCode_eq_cutAt, hslice _ (by simp), hcode]
  simp only [Option.bind_eq_bind, Option.bind_some]
  generalize ((cutAt ['#'] line).map Prod.fst).getD line = t
  rw [hslice ['|'] (by simp) t]
  simp only [Option.bind_some]
  rcases cutAt ['|'] t with _ | ⟨left, rest⟩
  · dsimp only
    rw [hslice ['>', '>'] (by simp) t, Option.bind_some]
    rcases cutAt ['>', '>'] t with _ | ⟨command, behind⟩
    · dsimp only
      rw [hslice ['>'] (by simp) t, Option.bind_some]
      rcases cutAt ['>'] t with _ | ⟨command, behind⟩ <;> rfl
    · rfl
  · dsimp only
    rw [hslice ['|'] (by simp) rest]
    rfl

/-- **The shape of a line is the one reading that the grammar gives it.** The code before the
comment is made of lawful parts in one way only, they say what the shape is, its first operator in
the order `|`, `>>`, `>` says of which kind it is, and every slice taken on the way exists. -/
theorem ofLine_reads (line : Text) :
    (∀ c, IsCode line c ↔ c = code line) ∧
    (∃ parts : Parts, (∀ p : Parts, p.Lawful ∧ p.code = code line ↔ p = parts) ∧
      ∀ shape, ofLine line = shape ↔ parts.Reads shape) ∧
    ((∃ l r, ofLine line = piped l r) ↔ '|' ∈ code line) ∧
    ((∃ c t, ofLine line = redirected c t .append) ↔
      '|' ∉ code line ∧ ['>', '>'] <:+: code line) ∧
    ((∃ c t, ofLine line = redirected c t .truncate) ↔
      '|' ∉ code line ∧ ¬['>', '>'] <:+: code line ∧ '>' ∈ code line) ∧
    ((∃ c, ofLine line = plain c) ↔ '|' ∉ code line ∧ '>' ∉ code line) ∧
    sliced? line = some (ofLine line) := by
  obtain ⟨hpiped, happend, htruncate, hplain⟩ := ofCode_kind (code line)
  refine ⟨isCode_iff line, ⟨Parts.ofCode (code line), fun p => ?_, fun shape => ?_⟩,
    hpiped, happend, htruncate, hplain, sliced?_eq_some line⟩
  · constructor
    · rintro ⟨hlawful, hcode⟩
      rw [← hcode, Parts.ofCode_code hlawful]
    · rintro rfl
      exact Parts.ofCode_lawful (code line)
  · exact ofCode_eq_iff (code line)

/-- A bar wins over every operator, and the first two of `>>>` over what stands around them. -/
example : ofLine (Text.lit "a > b >>> é | # c") = piped (Text.lit "a > b >>> é ") [' '] ∧
    ofLine (Text.lit "a > b >>> é # |") =
      redirected (Text.lit "a > b ") (Text.lit "> é") .append := by
  decide +kernel

end Shape

end LineShell
