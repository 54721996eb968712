import LineShell.Proofs.LineGrammar
import LineShell.Proofs.Lines
import LineShell.Proofs.Segments
/-!
# What a segment is tokenized to

A segment has its words, and no others (`ArgVector.hasWords_iff`). The words that the cap allows get
a slot each, and what they ask for is asked in their order, whatever asking does: `mapM_slotM_eq`
asks first for all the variables, and fills in the answers afterwards.

The headline is `ArgVector.ofSegment_tokenizes`, which says by the words of a segment what it is
tokenized to: the slots, the names asked for, the warning, and how the vector reads.
-/

namespace LineShell

namespace ArgVector

variable {vars : Text → Option Text} {cap : Nat} {segment : Text} {ws : List Text}

/-! ### The words of a segment -/

/-- The words of a segment are the runs without blanks of what it says before its comment. -/
def HasWords (segment : Text) (ws : List Text) : Prop :=
  ∃ c, IsCode segment c ∧ Text.Runs c ws

theorem hasWords_iff : HasWords segment ws ↔ ws = segmentWords segment := by
  constructor
  · rintro ⟨c, hcode, hruns⟩
    rw [(isCode_iff segment c).1 hcode] at hruns
    exact Text.runs_iff.1 hruns
  · rintro rfl
    exact ⟨code segment, (isCode_iff segment _).2 rfl, Text.runs_iff.2 rfl⟩

/-! ### Asking for variables -/

/-- The name of the variable that a word stands for. -/
def variableOf? : Text → Option Text
  | '$' :: name => some name
  | _ => none

/-- The slots of words, when it is known what their variables stand for, one after the other. -/
def filled : List Text → List (Option Text) → List (Option Text)
  | [], _ => []
  | word :: words, answers =>
    match variableOf? word with
    | none => some word :: filled words answers
    | some _ => answers.headD none :: filled words answers.tail

theorem variableOf?_eq_some_iff {word name : Text} :
    variableOf? word = some name ↔ word = '$' :: name := by
  unfold variableOf?
  split
  · simp [eq_comm]
  · rename_i hplain
    exact iff_of_false (by simp) (hplain name)

theorem variableOf?_eq_none_iff {word : Text} :
    variableOf? word = none ↔ ∀ name, word ≠ '$' :: name := by
  rw [Option.eq_none_iff_forall_ne_some]
  exact forall_congr' fun name => not_congr variableOf?_eq_some_iff

theorem slotM_of_plain {m : Type → Type} [Monad m] (ask : Text → m (Option Text)) {word : Text}
    (h : variableOf? word = none) : slotM ask word = pure (some word) := by
  unfold slotM
  split
  · exact absurd rfl (variableOf?_eq_none_iff.1 h _)
  · rfl

/-- **The words are asked for in their order**, each variable once: the slots are what the answers
fill in. -/
theorem mapM_slotM_eq {m : Type → Type} [Monad m] [LawfulMonad m] (ask : Text → m (Option Text))
    (ws : List Text) :
    ws.mapM (slotM ask) = filled ws <$> (ws.filterMap variableOf?).mapM ask := by
  induction ws with
  | nil => simp [filled]
  | cons w ws ih =>
    rw [List.mapM_cons, ih]
    cases hname : variableOf? w with
    | none =>
      rw [slotM_of_plain ask hname, List.filterMap_cons_none hname]
      simp [filled, hname]
    | some name =>
      rw [variableOf?_eq_some_iff.1 hname, List.filterMap_cons_some (variableOf?_eq_some_iff.2 rfl),
        List.mapM_cons]
      simp [filled, variableOf?, slotM]

/-- Answers that do not depend on when they are asked for give every word its own slot. -/
theorem filled_map (vars : Text → Option Text) (ws : List Text) :
    filled ws ((ws.filterMap variableOf?).map vars) = ws.map (slot vars) := by
  induction ws with
  | nil => rfl
  | cons w ws ih =>
    cases hname : variableOf? w with
    | none =>
      rw [List.filterMap_cons_none hname, List.map_cons,
        slot_of_plain vars (variableOf?_eq_none_iff.1 hname), ← ih]
      simp [filled, hname]
    | some name =>
      rw [List.filterMap_cons_some hname, List.map_cons, List.map_cons,
        variableOf?_eq_some_iff.1 hname, ← ih]
      simp [filled, variableOf?, slot]

theorem ofSegmentM_eq {m : Type → Type} [Monad m] [LawfulMonad m] (ask : Text → m (Option Text))
    (cap : Nat) (segment : Text) :
    ofSegmentM ask cap segment =
      (fun answers => ⟨⟨filled ((segmentWords segment).take cap) answers⟩,
        (segmentWords segment).length - cap⟩) <$>
        (((segmentWords segment).take cap).filterMap variableOf?).mapM ask := by
  unfold ofSegmentM
  dsimp only
  rw [mapM_slotM_eq, List.length_drop]
  simp

theorem run_mapM_asked (vars : Text → Option Text) (names asked : List Text) :
    (names.mapM fun name => (do modify (name :: ·); pure (vars name) :
      StateM (List Text) (Option Text))).run asked =
      (names.map vars, names.reverse ++ asked) := by
  induction names generalizing asked with
  | nil => rfl
  | cons name names ih =>
    rw [List.mapM_cons, List.reverse_cons, List.append_assoc]
    exact congrArg (fun r => (vars name :: r.1, r.2)) (ih (name :: asked))

/-- **Asking leaves the outcome as it is**, and asks for the variables that get a slot. -/
theorem ofSegmentAsked_eq (vars : Text → Option Text) (cap : Nat) (segment : Text) :
    ofSegmentAsked vars cap segment =
      (ofSegment vars cap segment, ((segmentWords segment).take cap).filterMap variableOf?) := by
  let words := (segmentWords segment).take cap
  have hasked := run_mapM_asked vars (words.filterMap variableOf?) []
  unfold ofSegmentAsked
  rw [ofSegmentM_eq, ofSegment_eq, ← filled_map, List.length_drop]
  refine (congrArg (fun r => (Tokenized.mk ⟨filled words r.1⟩
    ((segmentWords segment).length - cap), r.2.reverse)) hasked).trans ?_
  rw [List.append_nil, List.reverse_reverse]

/-! ### Reading a vector -/

/-- How the slots of a vector are read. -/
structure Reads (v : ArgVector) : Prop where
  /-- The effective arguments are the longest start of the slots without an absent one. -/
  args : ∀ l : List Text, l.map some <+: v.slots ↔ l <+: v.args
  arg : ∀ i, v.arg? i = v.args[i]?
  /-- The command is the first slot, if there is something in it. -/
  command : ∀ name, v.command? = some name ↔ name ≠ [] ∧ v.slots[0]? = some (some name)

theorem map_some_prefix_iff {l : List Text} {slots : List (Option Text)} :
    l.map some <+: slots ↔ l <+: present slots := by
  induction slots generalizing l with
  | nil => cases l <;> simp [present]
  | cons slot slots ih =>
    cases l with
    | nil => simp
    | cons a l =>
      cases slot with
      | none => simp [present]
      | some value =>
        unfold present
        rw [List.map_cons, List.cons_prefix_cons, List.cons_prefix_cons, ih,
          Option.some.injEq]

theorem reads (v : ArgVector) : v.Reads where
  args _ := map_some_prefix_iff
  arg _ := rfl
  command name := by rw [command?_eq_some_iff, List.head?_eq_getElem?]

/-! ### The outcome -/

/-- What the words of a segment make of it, when `asked` are the names that were asked for. -/
structure Tokenizes (vars : Text → Option Text) (cap : Nat) (ws : List Text) (t : Tokenized)
    (asked : List Text) : Prop where
  /-- The words get a slot each, as far as the cap allows. -/
  length : t.vector.slots.length = min ws.length cap
  plain : ∀ (i : Nat) (w : Text), i < cap → ws[i]? = some w → (∀ name, w ≠ '$' :: name) →
    t.vector.slots[i]? = some (some w)
  value : ∀ (i : Nat) (name : Text), i < cap → ws[i]? = some ('$' :: name) →
    t.vector.slots[i]? = some (vars name)
  asked : asked = (ws.take cap).filterMap variableOf?
  /-- There is a warning if there are words without a slot. -/
  warns : t.truncation? cap = if cap < ws.length then some ⟨cap, ws.length - cap⟩ else none
  /-- The log is warned once. -/
  logs : ∀ w : World,
    ((t.truncation? cap).toList.forM fun t => Proc.log (Shell.truncationRecord t)).run w =
      ((), w.noting (if cap < ws.length then
        [Shell.truncationRecord ⟨cap, ws.length - cap⟩] else []))

theorem getElem?_slots {i : Nat} {w : Text} (hcap : i < cap)
    (hw : (segmentWords segment)[i]? = some w) :
    (ofSegment vars cap segment).vector.slots[i]? = some (slot vars w) := by
  rw [ofSegment_eq, List.getElem?_map, List.getElem?_take_of_lt hcap, hw]
  rfl

theorem truncation?_ofSegment (vars : Text → Option Text) (cap : Nat) (segment : Text) :
    (ofSegment vars cap segment).truncation? cap =
      if cap < (segmentWords segment).length then
        some ⟨cap, (segmentWords segment).length - cap⟩ else none := by
  rw [ofSegment_eq]
  unfold Tokenized.truncation?
  dsimp only
  rw [List.length_drop]
  by_cases h : cap < (segmentWords segment).length
  · rw [if_pos h, if_neg (by omega)]
  · rw [if_neg h, if_pos (by omega)]

theorem tokenizes (vars : Text → Option Text) (cap : Nat) (segment : Text) :
    Tokenizes vars cap (segmentWords segment) (ofSegment vars cap segment)
      (((segmentWords segment).take cap).filterMap variableOf?) where
  length := by rw [ofSegment_eq, List.length_map, List.length_take, Nat.min_comm]
  plain i w hcap hw hplain := by rw [getElem?_slots hcap hw, slot_of_plain vars hplain]
  value i name hcap hw := getElem?_slots hcap hw
  asked := rfl
  warns := truncation?_ofSegment vars cap segment
  logs w := by
    rw [Proc.run_forM_log, truncation?_ofSegment]
    split <;> rfl

/-- **What a segment is tokenized to.** It has its words and no others. They get a slot each as far
as the cap allows, the value of a variable or the word itself, and the others are warned of once.
The variables with a slot are asked for in order, and no others, also when asking does something;
and the vector is read up to its first absent slot. -/
theorem ofSegment_tokenizes (vars : Text → Option Text) (cap : Nat) (segment : Text) :
    ∃ ws, (∀ ws', HasWords segment ws' ↔ ws' = ws) ∧
      Tokenizes vars cap ws (ofSegment vars cap segment) (ofSegmentAsked vars cap segment).2 ∧
      (ofSegmentAsked vars cap segment).1 = ofSegment vars cap segment ∧
      (∀ {m : Type → Type} [Monad m] [LawfulMonad m] (ask : Text → m (Option Text)),
        ofSegmentM ask cap segment =
          (fun answers => ⟨⟨filled (ws.take cap) answers⟩, ws.length - cap⟩) <$>
            ((ws.take cap).filterMap variableOf?).mapM ask) ∧
      (ofSegment vars cap segment).vector.Reads := by
  refine ⟨segmentWords segment, fun _ => hasWords_iff, ?_, ?_,
    fun ask => ofSegmentM_eq ask cap segment, reads _⟩
  · rw [ofSegmentAsked_eq]
    exact tokenizes vars cap segment
  · rw [ofSegmentAsked_eq]

/-- The third word is not asked for, nor is what the comment says. -/
example : ofSegmentAsked (fun _ => none) 2 (Text.lit "a $b $c # $d") =
    (⟨⟨[some ['a'], none]⟩, 1⟩, [['b']]) := by decide

end ArgVector

end LineShell
