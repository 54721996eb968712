import LineShell.Proofs.Launches
/-!
# What a write changes

A write through an open number changes what is behind the channel of that number, and nothing behind
another one: `Machine.behind` is the node of a file or the pipe that a channel writes to,
`Machine.LeadsTo` says where a number leads, and `Machine.behind_written` that no more is changed.

Opening a target changes the file itself, as its mode says (`RedirectMode.leaves`,
`Call.openPath_leaves`).
-/

namespace LineShell

/-! ### Trees -/

namespace FileTree

theorem node?_setKind (t : FileTree) (i j : Inode) (kind : NodeKind) :
    (t.setKind i kind).node? j =
      if i = j then (t.node? j).map fun n => { n with kind := kind } else t.node? j := by
  unfold setKind node?
  rw [List.getElem?_modify]
  split
  · rfl
  · cases t.nodes[j]? <;> rfl

theorem kind_setKind {t : FileTree} {i : Inode} {n : Node} (h : t.node? i = some n)
    (kind : NodeKind) : ((t.setKind i kind).node? i).map Node.kind = some kind := by
  rw [node?_setKind, if_pos rfl, h]
  rfl

/-- A node that is made is there, with a number that was not in use. -/
theorem kind_create {t t' : FileTree} {directory i : Inode} {name : Bytes} {n : Node}
    (h : t.create directory name n = .ok (t', i)) :
    t.node? i = none ∧ (t'.node? i).map Node.kind = some n.kind := by
  unfold create at h
  cases hadmits : t.admits directory with
  | error e =>
    rw [hadmits] at h
    cases h
  | ok _ =>
    rw [hadmits] at h
    cases h
    have hnone : t.node? t.nodes.length = none := List.getElem?_eq_none (Nat.le_refl _)
    have hnew : (t.addNode n).1.node? t.nodes.length = some n := List.getElem?_concat_length
    -- The directory was there before, so it is not the new node.
    have hne : directory ≠ t.nodes.length := by
      rintro rfl
      unfold admits at hadmits
      rw [hnone] at hadmits
      cases hadmits
    refine ⟨hnone, ?_⟩
    show (((t.addNode n).1.link directory name t.nodes.length).node? t.nodes.length).map _ = _
    unfold link
    split
    · rw [node?_setKind, if_neg hne, hnew]
      rfl
    · rw [hnew]
      rfl

end FileTree

/-! ### Behind a channel -/

namespace Machine

variable {m m' : Machine} {t : DescriptorTable} {fd : Nat} {channel : Channel} {bytes : Bytes}

/-- What a write to a channel can change: the node of a file, or a pipe. -/
def behind (m : Machine) : Channel → Option (Node ⊕ Pipe)
  | .node i => (m.tree.node? i).map .inl
  | .pipeWrite p => (m.pipes[p]?).map .inr
  | _ => none

/-- A number of a process leads to a channel. -/
def LeadsTo (m : Machine) (t : DescriptorTable) (fd : Nat) (channel : Channel) : Prop :=
  ∃ handle, Table.get? fd t = some handle ∧ m.channel? handle.description = some channel

theorem Keeps.leadsTo (h : Keeps m m') : m'.LeadsTo t fd channel ↔ m.LeadsTo t fd channel := by
  unfold LeadsTo
  simp only [h.channel?]

/-- More open descriptions do not change where numbers of before lead. -/
theorem leadsTo_of_append {more : List Description}
    (h : m'.descriptions = m.descriptions ++ more)
    (ht : ∀ e ∈ t, e.2.description < m.descriptions.length) (hleads : m'.LeadsTo t fd channel) :
    m.LeadsTo t fd channel := by
  obtain ⟨handle, hget, hchannel⟩ := hleads
  have hlt := ht _ (Table.mem_of_get? hget)
  rw [channel?_eq, opened?_of_append h hlt, ← channel?_eq] at hchannel
  exact ⟨handle, hget, hchannel⟩

theorem node?_of_behind {i : Inode} (h : m'.behind (.node i) = m.behind (.node i)) :
    m'.tree.node? i = m.tree.node? i := by
  unfold behind at h
  cases hnode : m'.tree.node? i <;> cases hnode' : m.tree.node? i <;> simp_all

theorem pipes_of_behind {p : Nat} (h : m'.behind (.pipeWrite p) = m.behind (.pipeWrite p)) :
    m'.pipes[p]? = m.pipes[p]? := by
  unfold behind at h
  cases hpipe : m'.pipes[p]? <;> cases hpipe' : m.pipes[p]? <;> simp_all

theorem behind_setOffset (m : Machine) (d offset : Nat) (channel : Channel) :
    (m.setOffset d offset).behind channel = m.behind channel := by
  cases channel <;> rfl

theorem behind_writeNode {i : Inode} (h : channel ≠ .node i) (m : Machine) (d : Nat)
    (desc : Description) (bytes : Bytes) :
    (m.writeNode i d desc bytes).behind channel = m.behind channel := by
  unfold writeNode
  split
  · dsimp only
    rw [behind_setOffset]
    cases channel with
    | node j =>
      have hne : i ≠ j := fun heq => h (congrArg _ heq.symm)
      exact congrArg (Option.map Sum.inl) ((m.tree.node?_setKind i j _).trans (if_neg hne))
    | _ => rfl
  · rfl

theorem behind_writeTo {d : Nat} (h : m.writeTo d bytes = .ok m') (hd : m.channel? d ≠ some channel) :
    m'.behind channel = m.behind channel := by
  have hne : ∀ {desc}, m.description? d = some desc → channel ≠ desc.channel := by
    rintro desc hdesc rfl
    exact hd (congrArg (Option.map Description.channel) hdesc)
  cases wrote_of_writeTo h with
  | node hdesc hchannel => exact behind_writeNode (hchannel ▸ hne hdesc) m d _ bytes
  | @pipe _ p _ hdesc hchannel hpipe =>
    cases channel with
    | pipeWrite q =>
      have hpipes : p ≠ q := fun heq => hne hdesc (by rw [hchannel, heq])
      exact congrArg (Option.map Sum.inr) (List.getElem?_set_ne hpipes)
    | _ => rfl
  | out | err => cases channel <;> rfl
  | lost => rfl

/-- **A write changes nothing behind another channel** than that of its number. -/
theorem behind_written (h : ¬m.LeadsTo t fd channel) (bytes : Bytes) :
    (m.written t fd bytes).behind channel = m.behind channel := by
  rcases written_cases t fd bytes m with hlost | ⟨handle, hget, hwrite⟩
  · rw [hlost]
  · exact behind_writeTo hwrite fun heq => h ⟨handle, hget, heq⟩

/-- Nor does the log, if it does not go there. -/
theorem behind_foldl_noted {log : Option Log.Sink}
    (h : ∀ sink ∈ log, ¬m.LeadsTo t sink.descriptor channel) (records : List Log.Record) :
    (records.foldl (noted log t) m).behind channel = m.behind channel := by
  -- Where the number of the log leads is kept by the records, and so has to be said with the rest.
  have hboth : Keeps m (records.foldl (noted log t) m) ∧
      (records.foldl (noted log t) m).behind channel = m.behind channel := by
    refine foldl_noted_of_written (P := fun m' => Keeps m m' ∧
      m'.behind channel = m.behind channel) ?_ records ⟨.refl m, rfl⟩
    rintro sink hsink m' bytes ⟨hkeeps, hbehind⟩
    have hleads := mt hkeeps.leadsTo.1 (h sink hsink)
    exact ⟨hkeeps.trans (keeps_written _ _ _ _), (behind_written hleads bytes).trans hbehind⟩
  exact hboth.2

end Machine

/-! ### Targets -/

/-- What a target holds once it is opened, when it held something before or was not there. -/
def RedirectMode.leaves : RedirectMode → Option NodeKind → NodeKind
  | _, none => .file []
  | .truncate, some (.file _) => .file []
  | _, some kind => kind

namespace Call

variable {t t' : FileTree} {i j : Inode} {mode : RedirectMode}

theorem NodeOpens.leaves (h : NodeOpens t j (Execution.openMode mode) t' (.node i)) :
    (t'.node? i).map Node.kind = some (mode.leaves ((t.node? i).map Node.kind)) := by
  have hwritable : (Execution.openMode mode).writable = true := by cases mode <;> rfl
  cases h with
  | directory _ _ hreading =>
    rw [hwritable] at hreading
    cases hreading
  | program hkind =>
    rw [hkind]
    cases mode <;> rfl
  | file hkind =>
    obtain ⟨n, hnode, -⟩ := Option.map_eq_some_iff.1 hkind
    rw [hkind]
    cases mode with
    | truncate => exact FileTree.kind_setKind hnode _
    | append => exact hkind

theorem reopen_leaves {channel : Channel}
    (h : reopen t channel (Execution.openMode mode) = .ok (t', .node i)) :
    (t'.node? i).map Node.kind = some (mode.leaves ((t.node? i).map Node.kind)) := by
  have hwritable : (Execution.openMode mode).writable = true := by cases mode <;> rfl
  unfold reopen at h
  rw [hwritable] at h
  cases channel with
  | node j => exact (nodeOpens_of_openNode h).leaves
  | device d => cases h
  | pipeRead p => cases h
  | pipeWrite p => cases h
  | console c => cases h
  | terminal => cases h

/-- **A target that is opened holds what its mode leaves.** -/
theorem openPath_leaves {c : Context} {path : Bytes} {tree : FileTree}
    (h : openPath c path (Execution.openMode mode) = .ok (tree, .node i)) :
    (tree.node? i).map Node.kind =
      some (mode.leaves ((c.machine.tree.node? i).map Node.kind)) := by
  cases pathOpens_of_openPath h with
  | made _ _ hmade =>
    -- A file that was made is as empty as one that was truncated.
    obtain ⟨hnone, hkind⟩ := FileTree.kind_create hmade
    rw [hkind, hnone]
    rfl
  | again _ _ _ _ h => exact reopen_leaves h
  | node _ h => exact h.leaves

end Call

end LineShell
