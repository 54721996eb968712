import LineShell.Proofs.Runs
/-!
# What a descriptor still gives

Reading moves a descriptor past bytes. `World.Ahead` says which bytes are ahead of it, and
`World.past` is the world in which it has been moved: what is ahead then is what was behind
(`World.Ahead.past`), and moving twice is moving once by the sum (`World.Ahead.past_past`).

The same holds of a file, where a position moves, and of a pipe, the bytes of which go.
-/

namespace LineShell

/-! ### Descriptions -/

namespace Machine

variable {m : Machine} {description : Nat} {unread : Bytes}

/-- What can be behind a description that bytes are read from, with those that are left. -/
inductive Readable (m : Machine) (description : Nat) : Bytes → Prop
  | file {i : Inode} {content : Bytes} {offset : Nat} {append writable : Bool}
      (h : m.description? description = some ⟨.node i, offset, append, true, writable⟩)
      (hnode : (m.tree.node? i).map Node.kind = some (.file content)) :
      Readable m description (content.drop offset)
  | program {i : Inode} {name : Text} {offset : Nat} {append writable : Bool}
      (h : m.description? description = some ⟨.node i, offset, append, true, writable⟩)
      (hnode : (m.tree.node? i).map Node.kind = some (.program name)) :
      Readable m description []
  | pipe {p : Nat} {bytes : Bytes} {hasReader : Bool} {offset : Nat} {append writable : Bool}
      (h : m.description? description = some ⟨.pipeRead p, offset, append, true, writable⟩)
      (hpipe : m.pipes[p]? = some ⟨.finite bytes, hasReader⟩) :
      Readable m description bytes
  /-- Nothing is behind it that could be moved. -/
  | nothing (h : ∀ n, m.consume description n = m) : Readable m description []

theorem readable_of_ahead (h : m.ahead description = .ok (.finite unread)) :
    m.Readable description unread := by
  unfold ahead at h
  cases hdesc : m.description? description with
  | none =>
    rw [hdesc] at h
    cases h
  | some desc =>
    obtain ⟨channel, offset, append, readable, writable⟩ := desc
    rw [hdesc] at h
    cases readable with
    | false => cases h
    | true =>
      -- Reading moves only files and pipes.
      have hstill (hchannel : ∀ i, channel ≠ .node i) (hpipe : ∀ p, channel ≠ .pipeRead p) (n : Nat) :
          m.consume description n = m := by
        unfold consume
        rw [hdesc]
        cases channel with
        | node i => exact absurd rfl (hchannel i)
        | pipeRead p => exact absurd rfl (hpipe p)
        | pipeWrite _ | device _ | console _ | terminal => rfl
      cases channel with
      | node i =>
        dsimp only [Bool.not_true, Bool.false_eq_true, if_false] at h
        cases hnode : (m.tree.node? i).map Node.kind with
        | none => rw [hnode] at h; cases h
        | some kind =>
          rw [hnode] at h
          cases kind with
          | file content => cases h; exact .file hdesc hnode
          | program name => cases h; exact .program hdesc hnode
          | directory _ _ | link _ | device _ => cases h
      | pipeRead p =>
        dsimp only [Bool.not_true, Bool.false_eq_true, if_false] at h
        cases hpipe : m.pipes[p]? with
        | none => rw [hpipe] at h; cases h
        | some pipe =>
          obtain ⟨content, hasReader⟩ := pipe
          rw [hpipe] at h
          cases h
          exact .pipe hdesc hpipe
      | pipeWrite p => cases h
      | device d =>
        have hnothing := hstill (by simp) (by simp)
        cases d with
        -- These never end, and so no finite text is ahead of them.
        | zero | full => cases h
        | null | handle _ | terminal => cases h; exact .nothing hnothing
      | console c => cases h; exact .nothing (hstill (by simp) (by simp))
      | terminal => cases h; exact .nothing (hstill (by simp) (by simp))

theorem description?_setOffset {desc : Description} (h : m.description? description = some desc)
    (offset : Nat) :
    (m.setOffset description offset).description? description =
      some { desc with offset := offset } := by
  unfold description? setOffset at *
  rw [List.getElem?_modify_eq, h]
  rfl

theorem description?_setOffset_eq (m : Machine) (d offset d' : Nat) :
    (m.setOffset d offset).description? d' =
      (m.description? d').map fun e => if d = d' then { e with offset := offset } else e := by
  unfold setOffset description?
  rw [List.getElem?_modify]
  rfl

theorem setOffset_self {desc : Description} (h : m.description? description = some desc) :
    m.setOffset description desc.offset = m := by
  unfold description? at h
  unfold setOffset
  have hsame : m.descriptions.modify description (fun e => { e with offset := desc.offset }) =
      m.descriptions := by
    apply List.ext_getElem?
    intro k
    rw [List.getElem?_modify]
    split
    · subst k
      rw [h]
      rfl
    · exact id_map _
  rw [hsame]

theorem setOffset_setOffset (a b : Nat) :
    (m.setOffset description a).setOffset description b = m.setOffset description b := by
  unfold setOffset
  rw [List.modify_modify_eq]
  rfl

theorem consume_node {i : Inode} {offset : Nat} {append readable writable : Bool}
    (h : m.description? description = some ⟨.node i, offset, append, readable, writable⟩) (n : Nat) :
    m.consume description n = m.setOffset description (offset + n) := by
  unfold consume
  rw [h]

theorem consume_pipe {p : Nat} {bytes : Bytes} {hasReader : Bool} {offset : Nat}
    {append readable writable : Bool}
    (h : m.description? description = some ⟨.pipeRead p, offset, append, readable, writable⟩)
    (hpipe : m.pipes[p]? = some ⟨.finite bytes, hasReader⟩) (n : Nat) :
    m.consume description n = m.setPipe p ⟨.finite (bytes.drop n), hasReader⟩ := by
  unfold consume
  rw [h]
  dsimp only
  rw [hpipe]
  rfl

theorem getElem?_setPipe {p : Nat} {pipe : Pipe} (h : m.pipes[p]? = some pipe) (pipe' : Pipe) :
    (m.setPipe p pipe').pipes[p]? = some pipe' := by
  obtain ⟨hlt, -⟩ := List.getElem?_eq_some_iff.1 h
  exact List.getElem?_set_self hlt

theorem ahead_file {i : Inode} {content : Bytes} {offset : Nat} {append writable : Bool}
    (h : m.description? description = some ⟨.node i, offset, append, true, writable⟩)
    (hnode : (m.tree.node? i).map Node.kind = some (.file content)) :
    m.ahead description = .ok (.finite (content.drop offset)) := by
  unfold ahead
  rw [h]
  dsimp only
  rw [hnode]
  rfl

theorem ahead_program {i : Inode} {name : Text} {offset : Nat} {append writable : Bool}
    (h : m.description? description = some ⟨.node i, offset, append, true, writable⟩)
    (hnode : (m.tree.node? i).map Node.kind = some (.program name)) :
    m.ahead description = .ok (.finite []) := by
  unfold ahead
  rw [h]
  dsimp only
  rw [hnode]
  rfl

theorem ahead_pipe {p : Nat} {pipe : Pipe} {offset : Nat} {append writable : Bool}
    (h : m.description? description = some ⟨.pipeRead p, offset, append, true, writable⟩)
    (hpipe : m.pipes[p]? = some pipe) : m.ahead description = .ok pipe.content := by
  unfold ahead
  rw [h]
  dsimp only
  rw [hpipe]
  rfl

/-- What is ahead after a read is what was behind it. -/
theorem ahead_consume (h : m.ahead description = .ok (.finite unread)) (n : Nat) :
    (m.consume description n).ahead description = .ok (.finite (unread.drop n)) := by
  cases readable_of_ahead h with
  | file hdesc hnode =>
    rw [consume_node hdesc, List.drop_drop]
    exact ahead_file (description?_setOffset hdesc _) hnode
  | program hdesc hnode =>
    rw [consume_node hdesc, List.drop_nil]
    exact ahead_program (description?_setOffset hdesc _) hnode
  | pipe hdesc hpipe =>
    rw [consume_pipe hdesc hpipe]
    exact ahead_pipe (m := m.setPipe _ _) hdesc (getElem?_setPipe hpipe _)
  | nothing hstill => rw [hstill, h, List.drop_nil]

theorem consume_zero (h : m.ahead description = .ok (.finite unread)) :
    m.consume description 0 = m := by
  cases readable_of_ahead h with
  | file hdesc | program hdesc =>
    rw [consume_node hdesc]
    exact setOffset_self hdesc
  | pipe hdesc hpipe =>
    obtain ⟨hlt, heq⟩ := List.getElem?_eq_some_iff.1 hpipe
    rw [consume_pipe hdesc hpipe, List.drop_zero, ← heq, setPipe, List.set_getElem_self]
  | nothing hstill => exact hstill 0

theorem consume_consume (h : m.ahead description = .ok (.finite unread)) (a b : Nat) :
    (m.consume description a).consume description b = m.consume description (a + b) := by
  cases readable_of_ahead h with
  | file hdesc | program hdesc =>
    rw [consume_node hdesc, consume_node (description?_setOffset hdesc _), setOffset_setOffset,
      consume_node hdesc, Nat.add_assoc]
  | pipe hdesc hpipe =>
    rw [consume_pipe hdesc hpipe, consume_pipe (m := m.setPipe _ _) hdesc (getElem?_setPipe hpipe _),
      consume_pipe hdesc hpipe, List.drop_drop, setPipe, setPipe, List.set_set]
    rfl
  | nothing hstill => rw [hstill, hstill, hstill]

end Machine

/-! ### Descriptors -/

namespace World

variable {w : World} {descriptor : Nat} {unread : Bytes}

/-- Exactly these bytes are ahead of a descriptor. -/
def Ahead (descriptor : Nat) (unread : Bytes) (w : World) : Prop :=
  ∃ h, Table.get? descriptor w.self.descriptors = some h ∧
    w.machine.ahead h.description = .ok (.finite unread)

/-- The world in which a descriptor has been moved past bytes. -/
def past (descriptor n : Nat) (w : World) : World :=
  match Table.get? descriptor w.self.descriptors with
  | none => w
  | some h => { w with machine := w.machine.consume h.description n }

theorem past_eq {h : Handle} (hget : Table.get? descriptor w.self.descriptors = some h) (n : Nat) :
    w.past descriptor n = { w with machine := w.machine.consume h.description n } := by
  unfold past
  rw [hget]

theorem Ahead.past (hahead : w.Ahead descriptor unread) (n : Nat) :
    (w.past descriptor n).Ahead descriptor (unread.drop n) := by
  obtain ⟨h, hget, hmachine⟩ := hahead
  rw [past_eq hget]
  exact ⟨h, hget, Machine.ahead_consume hmachine n⟩

theorem Ahead.past_zero (hahead : w.Ahead descriptor unread) : w.past descriptor 0 = w := by
  obtain ⟨h, hget, hmachine⟩ := hahead
  rw [past_eq hget, Machine.consume_zero hmachine]

theorem Ahead.past_past (hahead : w.Ahead descriptor unread) (a b : Nat) :
    (w.past descriptor a).past descriptor b = w.past descriptor (a + b) := by
  obtain ⟨h, hget, hmachine⟩ := hahead
  rw [past_eq hget, past_eq hget, ← Machine.consume_consume hmachine]
  exact past_eq (w := { w with machine := w.machine.consume h.description a }) hget b

end World

/-- Nothing is to be seen at a number that is not open. -/
theorem Call.run_peek_closed {c : Context} {fd : Nat}
    (hget : Table.get? fd c.self.descriptors = none) :
    (Call.peek fd).run c = (.error .badDescriptor, c) := by
  unfold Call.peek Call.handle?
  rw [run_bind, run_bind, run_get]
  dsimp only
  rw [run_pure, hget]
  rfl

/-- A look at a number leaves it as it is. -/
theorem Call.run_peek {c : Context} {fd : Nat} {h : Handle}
    (hget : Table.get? fd c.self.descriptors = some h) :
    (Call.peek fd).run c = (c.machine.ahead h.description, c) := by
  unfold Call.peek Call.handle?
  rw [run_bind, run_bind, run_get]
  dsimp only
  rw [run_pure, hget]
  rfl

namespace Proc

variable {w : World} {descriptor : Nat} {unread : Bytes}

theorem run_call_bind {α β : Type} (x : Call α) (f : α → Call β) (w : World) :
    (Proc.call (x >>= f)).run w =
      (Proc.call (f ((Proc.call x).run w).1)).run ((Proc.call x).run w).2 := rfl

theorem run_peek (hahead : w.Ahead descriptor unread) :
    (Proc.call (Call.peek descriptor)).run w = (.ok (.finite unread), w) := by
  obtain ⟨h, hget, hmachine⟩ := hahead
  rw [run_call, Call.run_peek hget, hmachine]

theorem run_skip (descriptor n : Nat) (w : World) :
    (Proc.call (Call.skip descriptor n)).run w = ((), w.past descriptor n) := by
  unfold Call.skip Call.handle? World.past
  rw [run_call, run_bind, run_bind, run_get]
  dsimp only
  rw [run_pure]
  cases Table.get? descriptor w.self.descriptors <;> rfl

/-- **A read takes bytes that are ahead**, as many as were asked for and are there. -/
theorem run_read (hahead : w.Ahead descriptor unread) (count : Nat) :
    (Proc.call (Call.read descriptor count)).run w =
      (.ok (unread.take count), w.past descriptor (unread.take count).length) := by
  unfold Call.read
  rw [run_call_bind, run_peek hahead]
  dsimp only
  rw [run_call_bind, show (Stream.finite unread).unroll count = .finite unread from rfl, run_skip]
  rfl

end Proc

end LineShell
