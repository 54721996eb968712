import LineShell.Proofs.Descriptors
import LineShell.Proofs.Walks
/-!
# What a target holds

`FileTree.Holds` says what an absolute path leads to: a regular file with its contents, or a name
under which a file can be made. It holds on through all that goes to other files
(`Machine.holds_written`, `Machine.holds_foldl_noted`).

Opening the path makes the file if it is not there, and drops former contents as the mode says
(`Call.holds_openPath`). What is then written through the new description comes behind the contents
that opening has left (`Machine.kind_written_opened`).
-/

namespace LineShell

/-! ### Trees -/

namespace FileTree

variable {t t' : FileTree} {path : Bytes} {i : Inode} {b : Option Bytes}

/-- What the node that a path leads to holds: the number of a regular file and its contents, or the
number that a file would get if it were made there, and no contents. -/
inductive Holds (t : FileTree) (path : Bytes) : Inode → Option Bytes → Prop
  | file {i : Inode} {entry : Option (Inode × Bytes)} {content : Bytes}
      (hwalk : t.walk true root path = .ok (.occupied i entry))
      (hkind : (t.node? i).map Node.kind = some (.file content)) : Holds t path i (some content)
  | absent {directory : Inode} {name : Bytes}
      (hwalk : t.walk true root path = .ok (.vacant directory name)) :
      Holds t path t.nodes.length none

/-- Other files may hold something else. -/
theorem Holds.of_sameOutline (h : t.Holds path i b) (hsame : SameOutline t t')
    (hnode : t'.node? i = t.node? i) : t'.Holds path i b := by
  cases h with
  | file hwalk hkind =>
    exact .file ((walk_congr hsame _ _ _).trans hwalk) (by rw [hnode, hkind])
  | absent hwalk =>
    rw [← hsame.length_eq]
    exact .absent ((walk_congr hsame _ _ _).trans hwalk)

end FileTree

open FileTree (root)

/-! ### Writing -/

namespace Machine

variable {m m' : Machine} {t : DescriptorTable} {fd d : Nat} {path : Bytes} {i : Inode}
  {b : Option Bytes}

/-- A write to another file leaves what a path holds. -/
theorem holds_written (h : m.tree.Holds path i b) (hapart : ¬m.LeadsTo t fd (.node i))
    (bytes : Bytes) : (m.written t fd bytes).tree.Holds path i b :=
  h.of_sameOutline (sameOutline_written t fd bytes m) (node?_of_behind (behind_written hapart bytes))

/-- And so does a log. -/
theorem holds_foldl_noted (h : m.tree.Holds path i b) {log : Option Log.Sink}
    (hapart : ∀ sink ∈ log, ¬m.LeadsTo t sink.descriptor (.node i)) (records : List Log.Record) :
    (records.foldl (noted log t) m).tree.Holds path i b :=
  h.of_sameOutline (sameOutline_foldl_noted log t records m)
    (node?_of_behind (behind_foldl_noted hapart records))

theorem description?_writeTo {d' : Nat} {bytes : Bytes} (h : m.writeTo d bytes = .ok m')
    (hne : d ≠ d') : m'.description? d' = m.description? d' := by
  cases wrote_of_writeTo h with
  | node =>
    unfold writeNode
    split
    · rw [description?_setOffset_eq]
      simp only [if_neg hne, Option.map_id']
      rfl
    · rfl
  | pipe | out | err | lost => rfl

/-- A log moves no description that the process does not have. -/
theorem description?_foldl_noted (h : ∀ e ∈ t, e.2.description ≠ d) (log : Option Log.Sink)
    (records : List Log.Record) (m : Machine) :
    (records.foldl (noted log t) m).description? d = m.description? d := by
  refine foldl_noted_of_written (P := fun m' => m'.description? d = m.description? d) ?_ records rfl
  intro sink hsink m' bytes hm'
  rcases written_cases t sink.descriptor bytes m' with hlost | ⟨handle, hget, hwrite⟩
  · rw [hlost, hm']
  · exact (description?_writeTo hwrite (h _ (Table.mem_of_get? hget))).trans hm'

end Machine

/-! ### Opening -/

namespace RedirectMode

/-- What is left of contents when a file is opened. -/
def opened : RedirectMode → Option Bytes → Bytes
  | truncate, _ => []
  | append, b => b.getD []

end RedirectMode

namespace Call

variable {c : Context} {path : Bytes} {mode : RedirectMode} {tree : FileTree} {channel : Channel}
  {i : Inode} {b : Option Bytes}

/-- **Opening a path** gives the file that it leads to, made if need be, with what the mode leaves of
its contents. -/
theorem holds_openPath (habsolute : Path.isAbsolute path = true)
    (h : c.machine.tree.Holds path i b)
    (hopen : openPath c path (Execution.openMode mode) = .ok (tree, channel)) :
    channel = .node i ∧ tree.Holds path i (some (mode.opened b)) := by
  have hroot := FileTree.walk_of_absolute (t := c.machine.tree) habsolute true c.self.directory root
  cases h with
  | absent hwalk =>
    cases pathOpens_of_openPath hopen with
    | made _ hwalk' hmade =>
      -- The file has been made, and its path leads there from now on.
      cases hwalk.symm.trans (hroot.symm.trans hwalk')
      obtain ⟨hi, hnode, hplace⟩ := FileTree.walk_created hwalk hmade
      rw [hi] at hnode hplace ⊢
      have hempty : mode.opened none = [] := by cases mode <;> rfl
      exact ⟨rfl, .file hplace (by rw [hnode, hempty]; rfl)⟩
    | again hwalk' => cases hwalk.symm.trans (hroot.symm.trans hwalk')
    | node hwalk' => cases hwalk.symm.trans (hroot.symm.trans hwalk')
  | @file _ entry content hwalk hkind =>
    cases pathOpens_of_openPath hopen with
    | made _ hwalk' => cases hwalk.symm.trans (hroot.symm.trans hwalk')
    | again hwalk' hdevice =>
      cases hwalk.symm.trans (hroot.symm.trans hwalk')
      cases hkind.symm.trans hdevice
    | node hwalk' hopens =>
      cases hwalk.symm.trans (hroot.symm.trans hwalk')
      obtain ⟨n, hnode, hfile⟩ := Option.map_eq_some_iff.1 hkind
      cases hopens with
      | directory hnode' hdirectory =>
        obtain rfl : n = _ := Option.some.inj (hnode.symm.trans hnode')
        simp [Node.isDirectory, hfile] at hdirectory
      | program hprogram => cases hkind.symm.trans hprogram
      | device hdevice => cases hkind.symm.trans hdevice
      | file hkind' =>
        cases hkind.symm.trans hkind'
        refine ⟨rfl, ?_⟩
        -- A truncating mode empties the file, and the other one leaves it alone.
        cases mode with
        | truncate =>
          have hsame := FileTree.sameOutline_setKind hkind []
          exact .file ((FileTree.walk_congr hsame _ _ _).trans hwalk)
            (FileTree.kind_setKind hnode _)
        | append => exact .file hwalk hkind

end Call

namespace Machine

variable {m : Machine} {t : DescriptorTable} {fd : Nat} {i : Inode} {mode : RedirectMode}
  {b : Option Bytes}

theorem overwrite_nil (bytes : Bytes) : overwrite [] 0 bytes = bytes := by simp [overwrite]

theorem overwrite_length (content bytes : Bytes) :
    overwrite content content.length bytes = content ++ bytes := by simp [overwrite]

/-- **What is written first to a file that was opened** comes behind what opening has left. -/
theorem kind_written_opened {handle : Handle} (hget : Table.get? fd t = some handle)
    (hdesc : m.description? handle.description =
      some ⟨.node i, 0, (Execution.openMode mode).append, false, true⟩)
    (hkind : (m.tree.node? i).map Node.kind = some (.file (mode.opened b))) (bytes : Bytes) :
    ((m.written t fd bytes).tree.node? i).map Node.kind =
      some (.file (mode.opened b ++ bytes)) := by
  obtain ⟨n, hnode, -⟩ := Option.map_eq_some_iff.1 hkind
  -- The description has just been opened for writing, so that the write is granted.
  have hwrite : m.writeTo handle.description bytes = .ok (m.writeNode i handle.description
      ⟨.node i, 0, (Execution.openMode mode).append, false, true⟩ bytes) := by
    unfold writeTo
    rw [hdesc]
    rfl
  unfold written
  rw [hget]
  dsimp only
  rw [hwrite]
  dsimp only
  rw [writeNode_file hkind]
  refine (FileTree.kind_setKind hnode _).trans ?_
  cases mode with
  | truncate => exact congrArg (fun content => some (NodeKind.file content)) (overwrite_nil bytes)
  | append => exact congrArg (fun content => some (NodeKind.file content)) (overwrite_length _ bytes)

end Machine

end LineShell
