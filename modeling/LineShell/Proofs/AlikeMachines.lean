import LineShell.Proofs.Descriptors
import LineShell.Proofs.Walks
/-!
# Machines that differ in a log

A `Log.Place` is where a log goes. Two machines are alike, `Machine.Alike`, when they differ at most
in what the file of the log holds and in the positions of the descriptions that lead there.

What is done to alike machines leaves them alike: nodes made and changed, descriptions opened and
moved, bytes written (`Machine.Alike.writeTo`). What is written to the log of one of them alone
leaves them alike as well (`Machine.Alike.written_log`).
-/

namespace LineShell

/-! ### The place of a log -/

/-- Where a log goes, if there is one: the open description behind its number, and the file that
this leads to unless it leads to a device. -/
structure Log.Place where
  sink : Option Log.Sink
  description : Option Nat
  file : Option Inode

/-- The channel leads to the file of the log, or to a device. -/
def Log.Place.Hides (p : Log.Place) (channel : Channel) : Prop :=
  p.file.map Channel.node = some channel ∨ ∃ d, channel = .device d

/-- The number of the log is neither end of a pipe. -/
def Log.Place.Apart (p : Log.Place) (readEnd writeEnd : Nat) : Prop :=
  ∀ sink ∈ p.sink, sink.descriptor ≠ readEnd ∧ sink.descriptor ≠ writeEnd

/-! ### Trees -/

namespace FileTree

variable {p : Log.Place} {t t' : FileTree} {i j directory : Inode} {name : Bytes}

/-- The trees differ at most in what the file of the log holds, and nobody can run that. -/
structure Alike (p : Log.Place) (t t' : FileTree) : Prop where
  nodes : ∀ j, t'.node? j = t.node? j ∨ p.file = some j ∧ ∃ content content' permissions,
    t.node? j = some ⟨.file content, permissions⟩ ∧ t'.node? j = some ⟨.file content', permissions⟩
  inert : ∀ i ∈ p.file, ∃ n, t.node? i = some n ∧ n.permissions.allows .execute = false

theorem Alike.sameOutline (h : t.Alike p t') : SameOutline t t' := by
  intro j
  rcases h.nodes j with hj | ⟨-, content, content', permissions, hj, hj'⟩
  · rw [hj]
  · rw [hj, hj']
    rfl

/-- A node may be given the same kind in both. -/
theorem Alike.setKind (h : t.Alike p t') (j : Inode) (kind : NodeKind) :
    (t.setKind j kind).Alike p (t'.setKind j kind) := by
  constructor
  · intro i
    rw [node?_setKind, node?_setKind]
    split
    · rename_i heq
      rcases h.nodes i with hi | ⟨-, content, content', permissions, hi, hi'⟩
      · exact .inl (by rw [hi])
      · exact .inl (by rw [hi, hi']; rfl)
    · exact h.nodes i
  · intro i hi
    obtain ⟨n, hn, hallows⟩ := h.inert i hi
    rw [node?_setKind, hn]
    split
    · exact ⟨_, rfl, hallows⟩
    · exact ⟨n, rfl, hallows⟩

/-- The file of the log may be given any contents. -/
theorem Alike.setFile (h : t.Alike p t') (hj : p.file = some j) {content : Bytes}
    (hkind : (t.node? j).map Node.kind = some (.file content)) (b b' : Bytes) :
    (t.setKind j (.file b)).Alike p (t'.setKind j (.file b')) := by
  obtain ⟨⟨kind, permissions⟩, hn, rfl⟩ := Option.map_eq_some_iff.1 hkind
  refine ⟨fun i => ?_, (h.setKind j (.file b)).inert⟩
  rw [node?_setKind, node?_setKind]
  split
  · rename_i heq
    subst heq
    refine .inr ⟨hj, b, b', permissions, by rw [hn]; rfl, ?_⟩
    rcases h.nodes j with hi | ⟨-, _, content', permissions', hi, hi'⟩
    · rw [hi, hn]
      rfl
    · rw [hn] at hi
      cases hi
      rw [hi']
      rfl
  · exact h.nodes i

theorem Alike.setFile_right (h : t.Alike p t) (hj : p.file = some j) {content : Bytes}
    (hkind : (t.node? j).map Node.kind = some (.file content)) (b : Bytes) :
    t.Alike p (t.setKind j (.file b)) := by
  obtain ⟨⟨kind, permissions⟩, hn, rfl⟩ := Option.map_eq_some_iff.1 hkind
  refine ⟨fun i => ?_, h.inert⟩
  rw [node?_setKind]
  split
  · rename_i heq
    subst heq
    rw [hn]
    exact .inr ⟨hj, content, b, permissions, rfl, rfl⟩
  · exact .inl rfl

theorem Alike.addNode (h : t.Alike p t') (n : Node) :
    (t.addNode n).1.Alike p (t'.addNode n).1 := by
  constructor
  · intro j
    rw [node?_addNode, node?_addNode, h.sameOutline.length_eq]
    split
    · exact .inl rfl
    · exact h.nodes j
  · intro i hi
    obtain ⟨m, hm, hallows⟩ := h.inert i hi
    have hlt : i < t.nodes.length := (List.getElem?_eq_some_iff.1 hm).1
    rw [node?_addNode, if_neg (Nat.ne_of_lt hlt)]
    exact ⟨m, hm, hallows⟩

theorem Alike.link (h : t.Alike p t') (directory : Inode) (name : Bytes) (i : Inode) :
    (t.link directory name i).Alike p (t'.link directory name i) := by
  unfold FileTree.link
  rcases h.nodes directory with hn | ⟨-, content, content', permissions, hn, hn'⟩
  · rw [hn]
    split
    · exact h.setKind _ _
    · exact h
  · rw [hn, hn']
    exact h

/-- The same node can be made in both, with the same number. -/
theorem Alike.create (h : t.Alike p t') (directory : Inode) (name : Bytes) (n : Node) :
    (∃ e, t.create directory name n = .error e ∧ t'.create directory name n = .error e) ∨
    ∃ i u u', t.create directory name n = .ok (u, i) ∧ t'.create directory name n = .ok (u', i) ∧
      u.Alike p u' := by
  unfold FileTree.create
  rw [admits_congr h.sameOutline]
  cases t.admits directory with
  | error e => exact .inl ⟨e, rfl, rfl⟩
  | ok _ =>
    have hlength : (t'.addNode n).2 = (t.addNode n).2 := h.sameOutline.length_eq
    refine .inr ⟨(t.addNode n).2, _, _, rfl, ?_, (h.addNode n).link directory name _⟩
    show Except.ok ((t'.addNode n).1.link directory name (t'.addNode n).2, (t'.addNode n).2) = _
    rw [hlength]
    rfl

end FileTree

/-! ### Descriptions -/

namespace Description

variable {p : Log.Place} {d d' : Description}

/-- A description without its position if it leads to the file of the log. -/
def masked (p : Log.Place) (d : Description) : Description :=
  if p.file.map Channel.node = some d.channel then d.asOpened else d

theorem masked_setOffset (p : Log.Place) (d : Description) (offset : Nat) :
    (masked p { d with offset := offset }) =
      if p.file.map Channel.node = some d.channel then d.asOpened else { d with offset := offset } :=
  rfl

/-- What is masked alike differs in the position alone, and there only if it leads to the log. -/
theorem eq_of_masked (h : d'.masked p = d.masked p) :
    d' = { d with offset := d'.offset } ∧
      (d'.offset = d.offset ∨ p.file.map Channel.node = some d.channel) := by
  have hchannel : ∀ e : Description, (e.masked p).channel = e.channel := fun e => by
    unfold masked
    split <;> rfl
  have hsame : d'.channel = d.channel := by
    rw [← hchannel d', ← hchannel d, h]
  unfold masked at h
  rw [hsame] at h
  split at h
  · rename_i hhidden
    refine ⟨?_, .inr hhidden⟩
    obtain ⟨channel, offset, append, readable, writable⟩ := d
    obtain ⟨channel', offset', append', readable', writable'⟩ := d'
    cases h
    rfl
  · rw [h]
    exact ⟨rfl, .inl rfl⟩

end Description

/-! ### Machines -/

namespace Machine

variable {p : Log.Place} {m m' n n' : Machine} {d : Nat} {bytes : Bytes}

/-- The machines differ at most in what the file of the log holds and in the positions of the
descriptions that lead there. -/
structure Alike (p : Log.Place) (m m' : Machine) : Prop where
  tree : m.tree.Alike p m'.tree
  descriptions : ∀ d, (m'.description? d).map (Description.masked p) =
    (m.description? d).map (Description.masked p)
  pipes : m'.pipes = m.pipes
  out : m'.out = m.out
  err : m'.err = m.err
  /-- The description of the log leads there. -/
  leads : ∀ d ∈ p.description, ∃ channel, m.channel? d = some channel ∧ p.Hides channel

theorem Alike.description?_cases (h : m.Alike p m') (d : Nat) :
    m.description? d = none ∧ m'.description? d = none ∨
    ∃ desc offset, m.description? d = some desc ∧
      m'.description? d = some { desc with offset := offset } ∧
      (offset = desc.offset ∨ p.file.map Channel.node = some desc.channel) := by
  have hd := h.descriptions d
  cases hdesc : m.description? d with
  | none =>
    rw [hdesc] at hd
    exact .inl ⟨rfl, Option.map_eq_none_iff.1 hd⟩
  | some desc =>
    rw [hdesc] at hd
    obtain ⟨desc', hdesc', hmasked⟩ := Option.map_eq_some_iff.1 hd
    obtain ⟨heq, hoffset⟩ := Description.eq_of_masked hmasked
    rw [hdesc', heq]
    exact .inr ⟨desc, desc'.offset, rfl, rfl, hoffset⟩

theorem Alike.channel? (h : m.Alike p m') (d : Nat) : m'.channel? d = m.channel? d := by
  unfold Machine.channel?
  rcases h.description?_cases d with ⟨hd, hd'⟩ | ⟨desc, offset, hd, hd', -⟩
  · rw [hd, hd']
  · rw [hd, hd']
    rfl

/-- Behind a description that does not lead to the log, the same is found. -/
theorem Alike.ahead (h : m.Alike p m')
    (hapart : ∀ channel ∈ m.channel? d, p.file.map Channel.node ≠ some channel) :
    m'.ahead d = m.ahead d := by
  unfold Machine.ahead
  rcases h.description?_cases d with ⟨hd, hd'⟩ | ⟨desc, offset, hd, hd', hoffset⟩
  · rw [hd, hd']
  have hchannel : p.file.map Channel.node ≠ some desc.channel := by
    refine hapart desc.channel ?_
    unfold Machine.channel?
    rw [hd]
    rfl
  obtain rfl : offset = desc.offset := hoffset.resolve_right hchannel
  obtain ⟨channel, offset, append, readable, writable⟩ := desc
  rw [hd, hd', h.pipes]
  cases channel with
  | node i =>
    -- Only the file of the log may differ, and it is not read here.
    have hnode : m'.tree.node? i = m.tree.node? i := (h.tree.nodes i).resolve_right fun hlog =>
      hchannel (congrArg (Option.map Channel.node) hlog.1)
    dsimp only
    rw [hnode]
  | device device => cases device <;> rfl
  | _ => rfl

theorem Alike.symm (h : m.Alike p m') : m'.Alike p m := by
  refine ⟨⟨fun j => ?_, fun i hi => ?_⟩, fun d => (h.descriptions d).symm, h.pipes.symm,
    h.out.symm, h.err.symm, fun d hd => ?_⟩
  · rcases h.tree.nodes j with hj | ⟨hp, content, content', permissions, hj, hj'⟩
    · exact .inl hj.symm
    · exact .inr ⟨hp, content', content, permissions, hj', hj⟩
  · obtain ⟨node, hnode, hallows⟩ := h.tree.inert i hi
    rcases h.tree.nodes i with hj | ⟨-, content, content', permissions, hj, hj'⟩
    · exact ⟨node, hj.trans hnode, hallows⟩
    · rw [hnode] at hj
      cases hj
      exact ⟨_, hj', hallows⟩
  · rw [h.channel?]
    exact h.leads d hd

theorem Alike.trans (h : m.Alike p m') (h' : m'.Alike p n) : m.Alike p n := by
  refine ⟨⟨fun j => ?_, h.tree.inert⟩, fun d => (h'.descriptions d).trans (h.descriptions d),
    h'.pipes.trans h.pipes, h'.out.trans h.out, h'.err.trans h.err, h.leads⟩
  rcases h.tree.nodes j with hj | ⟨hp, content, content', permissions, hj, hj'⟩
  · rw [← hj]
    exact h'.tree.nodes j
  · refine .inr ⟨hp, ?_⟩
    rcases h'.tree.nodes j with hn | ⟨-, _, content'', permissions', hn, hn'⟩
    · exact ⟨content, content', permissions, hj, hn.trans hj'⟩
    · rw [hj'] at hn
      cases hn
      exact ⟨content, content'', permissions, hj, hn'⟩

theorem Alike.refl_left (h : m.Alike p m') : m.Alike p m := h.trans h.symm

theorem Alike.length_eq (h : m.Alike p m') : m'.descriptions.length = m.descriptions.length := by
  have hnone : ∀ d, m'.descriptions[d]? = none ↔ m.descriptions[d]? = none := fun d =>
    Option.map_eq_none_iff.symm.trans
      ((iff_of_eq (congrArg (· = none) (h.descriptions d))).trans Option.map_eq_none_iff)
  simp only [List.getElem?_eq_none_iff] at hnone
  exact Nat.le_antisymm ((hnone _).2 (Nat.le_refl _)) ((hnone _).1 (Nat.le_refl _))

theorem Alike.withTree (h : m.Alike p m') {t t' : FileTree} (htree : t.Alike p t') :
    Alike p { m with tree := t } { m' with tree := t' } :=
  ⟨htree, h.descriptions, h.pipes, h.out, h.err, h.leads⟩

/-- A description may be moved to the same position, and one that leads to the log to any. -/
theorem Alike.setOffset (h : m.Alike p m') (d offset offset' : Nat)
    (hoffset : offset' = offset ∨ ∃ desc, m.description? d = some desc ∧
      p.file.map Channel.node = some desc.channel) :
    (m.setOffset d offset).Alike p (m'.setOffset d offset') := by
  refine ⟨h.tree, fun e => ?_, h.pipes, h.out, h.err, fun e he => ?_⟩
  · rw [description?_setOffset_eq, description?_setOffset_eq]
    rcases h.description?_cases e with ⟨he, he'⟩ | ⟨desc, o, he, he', ho⟩
    · rw [he, he']
      rfl
    · rw [he, he']
      simp only [Option.map_some, Option.some.injEq]
      by_cases heq : d = e
      · subst heq
        rw [if_pos rfl, if_pos rfl]
        -- Where the positions differ, the description leads to the log and is masked.
        rcases hoffset with rfl | ⟨desc', hdesc, hhidden⟩
        · rfl
        · rw [he] at hdesc
          cases hdesc
          rw [Description.masked_setOffset, Description.masked_setOffset, if_pos hhidden,
            if_pos hhidden]
      · rw [if_neg heq, if_neg heq]
        have hmasked := h.descriptions e
        rw [he, he'] at hmasked
        exact Option.some.inj hmasked
  · obtain ⟨channel, hchannel, hhides⟩ := h.leads e he
    refine ⟨channel, ?_, hhides⟩
    unfold Machine.channel? at hchannel ⊢
    rw [description?_setOffset_eq, Option.map_map, ← hchannel]
    refine congrArg (fun f => (m.description? e).map f) (funext fun desc => ?_)
    show (if d = e then { desc with offset := offset } else desc).channel = desc.channel
    split <;> rfl

/-- The same description may be opened in both. -/
theorem Alike.addDescription (h : m.Alike p m') (desc : Description) :
    Alike p { m with descriptions := m.descriptions ++ [desc] }
      { m' with descriptions := m'.descriptions ++ [desc] } := by
  refine ⟨h.tree, fun e => ?_, h.pipes, h.out, h.err, fun e he => ?_⟩
  · show ((m'.descriptions ++ [desc])[e]?).map _ = ((m.descriptions ++ [desc])[e]?).map _
    rw [List.getElem?_append, List.getElem?_append, h.length_eq]
    split
    · exact h.descriptions e
    · rfl
  · obtain ⟨channel, hchannel, hhides⟩ := h.leads e he
    obtain ⟨old, hold, rfl⟩ := Option.map_eq_some_iff.1 hchannel
    refine ⟨old.channel, ?_, hhides⟩
    show ((m.descriptions ++ [desc])[e]?).map Description.channel = _
    rw [List.getElem?_append_left (List.getElem?_eq_some_iff.1 hold).1]
    exact hchannel

theorem Alike.withPipes (h : m.Alike p m') (pipes : List Pipe) :
    Alike p { m with pipes := pipes } { m' with pipes := pipes } :=
  ⟨h.tree, h.descriptions, rfl, h.out, h.err, h.leads⟩

/-- What is written to a node is the same in both, or goes to the file of the log. -/
theorem Alike.writeNode (h : m.Alike p m') {i : Inode} {desc : Description} {offset : Nat}
    (hdesc : m.description? d = some desc) (hchannel : desc.channel = .node i)
    (hoffset : offset = desc.offset ∨ p.file.map Channel.node = some desc.channel) (bytes : Bytes) :
    (m.writeNode i d desc bytes).Alike p (m'.writeNode i d { desc with offset := offset } bytes) := by
  have hsame : m'.tree.node? i = m.tree.node? i → (p.file = some i ∨ offset = desc.offset) →
      (m.writeNode i d desc bytes).Alike p
        (m'.writeNode i d { desc with offset := offset } bytes) := by
    intro hnode hplace
    unfold Machine.writeNode
    rw [hnode]
    split
    · rename_i content permissions hn
      have htree : (m.tree.setKind i (.file (overwrite content
            (if desc.append then content.length else desc.offset) bytes))).Alike p
          (m'.tree.setKind i (.file (overwrite content
            (if desc.append then content.length else offset) bytes))) := by
        rcases hplace with hfile | rfl
        · exact h.tree.setFile hfile (by rw [hn]; rfl) _ _
        · exact h.tree.setKind i _
      refine (h.withTree htree).setOffset d _ _ ?_
      rcases hplace with hfile | rfl
      · exact .inr ⟨desc, hdesc, by rw [hfile, hchannel]; rfl⟩
      · exact .inl rfl
    · exact h
  -- The log is written at different places in different contents; any other file is the same.
  rcases h.tree.nodes i with hnode | ⟨hfile, content, content', permissions, hn, hn'⟩
  · refine hsame hnode (hoffset.symm.imp_left fun hhidden => ?_)
    rw [hchannel] at hhidden
    obtain ⟨j, hj, heq⟩ := Option.map_eq_some_iff.1 hhidden
    cases heq
    exact hj
  · rw [writeNode_file (by rw [hn]; rfl), writeNode_file (by rw [hn']; rfl)]
    exact (h.withTree (h.tree.setFile hfile (by rw [hn]; rfl) _ _)).setOffset d _ _
      (.inr ⟨desc, hdesc, by rw [hfile, hchannel]; rfl⟩)

/-- **A write succeeds in both or in neither**, for the same reason. -/
theorem Alike.writeTo (h : m.Alike p m') (d : Nat) (bytes : Bytes) :
    (∃ e, m.writeTo d bytes = .error e ∧ m'.writeTo d bytes = .error e) ∨
    ∃ n n', m.writeTo d bytes = .ok n ∧ m'.writeTo d bytes = .ok n' ∧ n.Alike p n' := by
  unfold Machine.writeTo
  rcases h.description?_cases d with ⟨hd, hd'⟩ | ⟨desc, offset, hd, hd', hoffset⟩
  · rw [hd, hd']
    exact .inl ⟨_, rfl, rfl⟩
  rw [hd, hd']
  dsimp only
  split
  · exact .inl ⟨_, rfl, rfl⟩
  -- The log is among the files; consoles and pipes hold the same in both machines.
  cases hchannel : desc.channel with
  | node i => exact .inr ⟨_, _, rfl, rfl, h.writeNode hd hchannel hoffset bytes⟩
  | device device =>
    cases device with
    | full => exact .inl ⟨_, rfl, rfl⟩
    | _ => exact .inr ⟨_, _, rfl, rfl, h⟩
  | pipeRead => exact .inl ⟨_, rfl, rfl⟩
  | pipeWrite i =>
    dsimp only
    rw [h.pipes]
    cases m.pipes[i]? with
    | none => exact .inl ⟨_, rfl, rfl⟩
    | some pipe =>
      dsimp only
      split
      · refine .inr ⟨_, _, rfl, rfl, h.tree, h.descriptions, ?_, h.out, h.err, h.leads⟩
        show m'.pipes.set i _ = m.pipes.set i _
        rw [h.pipes]
      · exact .inl ⟨_, rfl, rfl⟩
  | console c =>
    cases c with
    | out =>
      refine .inr ⟨_, _, rfl, rfl, h.tree, h.descriptions, h.pipes, ?_, h.err, h.leads⟩
      show m'.out ++ bytes = m.out ++ bytes
      rw [h.out]
    | err =>
      refine .inr ⟨_, _, rfl, rfl, h.tree, h.descriptions, h.pipes, h.out, ?_, h.leads⟩
      show m'.err ++ bytes = m.err ++ bytes
      rw [h.err]
  | terminal => exact .inr ⟨_, _, rfl, rfl, h⟩

/-- What is written to the description of the log goes where nobody looks. -/
theorem Alike.writeTo_log (h : m.Alike p m) (hplace : p.description = some d) (bytes : Bytes) :
    (∃ e, m.writeTo d bytes = .error e) ∨ ∃ n, m.writeTo d bytes = .ok n ∧ m.Alike p n := by
  obtain ⟨channel, hchannel, hhides⟩ := h.leads d hplace
  obtain ⟨desc, hdesc, rfl⟩ := Option.map_eq_some_iff.1 hchannel
  unfold Machine.writeTo
  rw [hdesc]
  dsimp only
  split
  · exact .inl ⟨_, rfl⟩
  rcases hhides with hfile | ⟨device, hdevice⟩
  · obtain ⟨i, hi, hnode⟩ := Option.map_eq_some_iff.1 hfile
    rw [← hnode]
    refine .inr ⟨_, rfl, ?_⟩
    unfold Machine.writeNode
    split
    · rename_i content permissions hn
      have htree := h.withTree (h.tree.setFile_right hi (by rw [hn]; rfl) (overwrite content
        (if desc.append then content.length else desc.offset) bytes))
      -- The machine itself is one that has been moved to where its description is.
      have hmoved := htree.setOffset d desc.offset
        ((if desc.append then content.length else desc.offset) + bytes.length)
        (.inr ⟨desc, hdesc, hfile⟩)
      rwa [setOffset_self hdesc] at hmoved
    · exact h
  · rw [hdevice]
    cases device with
    | full => exact .inl ⟨_, rfl⟩
    | _ => exact .inr ⟨_, rfl, h⟩

/-- **What is written to the log leaves machines alike.** -/
theorem Alike.written_log (h : m.Alike p m) {t : DescriptorTable} {fd : Nat} {handle : Handle}
    (hget : Table.get? fd t = some handle) (hplace : p.description = some handle.description)
    (bytes : Bytes) : m.Alike p (m.written t fd bytes) := by
  unfold Machine.written
  rw [hget]
  dsimp only
  rcases h.writeTo_log hplace bytes with ⟨e, he⟩ | ⟨n, hn, halike⟩
  · rw [he]
    exact h
  · rw [hn]
    exact halike

end Machine

end LineShell
