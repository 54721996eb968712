import LineShell.Proofs.Writes
/-!
# Where walks lead

A walk looks at directories and links, and at who may walk through them; what files hold is nothing
to it. Trees of the same outline, `FileTree.SameOutline`, have the same walks
(`FileTree.walk_congr`), and their directories the same paths (`FileTree.pathOf?_congr`).

Where a walk ends at a vacant name, it ends at the new node once one is made there, and all that led
to the name stays as it was (`FileTree.walk_created`).
-/

namespace LineShell

/-- A node without what a file holds. -/
def Node.outline (n : Node) : Node :=
  match n.kind with
  | .file _ => { n with kind := .file [] }
  | _ => n

namespace FileTree

variable {t t' : FileTree} {i j directory : Inode} {name path : Bytes} {n : Node}

/-! ### Trees of the same outline -/

/-- The same nodes but for what files hold. -/
def SameOutline (t t' : FileTree) : Prop :=
  ∀ i, (t.node? i).map Node.outline = (t'.node? i).map Node.outline

theorem SameOutline.refl (t : FileTree) : SameOutline t t := fun _ => rfl

theorem SameOutline.trans {t'' : FileTree} (h : SameOutline t t') (h' : SameOutline t' t'') :
    SameOutline t t'' := fun i => (h i).trans (h' i)

/-- A number has the same node in both trees, or a file with the same permissions. -/
theorem SameOutline.node?_cases (h : SameOutline t t') (i : Inode) :
    t'.node? i = t.node? i ∨ ∃ content content' permissions,
      t.node? i = some ⟨.file content, permissions⟩ ∧
        t'.node? i = some ⟨.file content', permissions⟩ := by
  have hi := h i
  rcases hnode : t.node? i with _ | ⟨kind, permissions⟩ <;>
    rcases hnode' : t'.node? i with _ | ⟨kind', permissions'⟩ <;> rw [hnode, hnode'] at hi
  · exact .inl rfl
  · cases hi
  · cases hi
  · have houtline := Option.some.inj hi
    cases kind <;> cases kind' <;> simp_all [Node.outline]

/-- A file may be given other contents. -/
theorem sameOutline_setKind {content : Bytes}
    (hnode : (t.node? i).map Node.kind = some (.file content)) (content' : Bytes) :
    SameOutline t (t.setKind i (.file content')) := by
  intro j
  rw [node?_setKind]
  split
  · rename_i heq
    subst heq
    obtain ⟨⟨kind, permissions⟩, hn, rfl⟩ := Option.map_eq_some_iff.1 hnode
    rw [hn]
    rfl
  · rfl

theorem descend_congr (h : SameOutline t t') (followLast : Bool) (at_ : Inode)
    (entry : Option (Inode × Bytes)) (steps : List Bytes) :
    descend t' followLast at_ entry steps = descend t followLast at_ entry steps := by
  induction steps generalizing at_ entry with
  | nil => rfl
  | cons name rest ih =>
    unfold descend
    -- Only regular files may differ, and nobody descends through one.
    rcases h.node?_cases at_ with hat | ⟨content, content', permissions, hat, hat'⟩
    · rw [hat]
      rcases t.node? at_ with _ | ⟨kind, permissions⟩
      · rfl
      cases kind with
      | directory entries parent reachable =>
        dsimp only
        rw [ih, ih]
        cases entries.get? name with
        | none => rfl
        | some i =>
          rcases h.node?_cases i with hi | ⟨content, content', permissions, hi, hi'⟩
          · dsimp only
            rw [hi, ih]
          · dsimp only
            rw [hi, hi']
            dsimp only
            rw [ih]
      | _ => rfl
    · rw [hat, hat']

theorem walkFrom_congr (h : SameOutline t t') (followLast : Bool) (links : Nat) (start : Inode)
    (steps : List Bytes) :
    walkFrom t' followLast links start steps = walkFrom t followLast links start steps := by
  induction links generalizing start steps with
  | zero =>
    unfold walkFrom
    rw [descend_congr h]
  | succ links ih =>
    unfold walkFrom
    rw [descend_congr h]
    simp only [ih]

/-- **Walks do not depend on what files hold.** -/
theorem walk_congr (h : SameOutline t t') (followLast : Bool) (start : Inode) (path : Bytes) :
    t'.walk followLast start path = t.walk followLast start path := by
  unfold walk
  rw [walkFrom_congr h]

theorem find_congr (h : SameOutline t t') (followLast : Bool) (start : Inode) (path : Bytes) :
    t'.find followLast start path = t.find followLast start path := by
  unfold find
  rw [walk_congr h]

theorem isDirectory_congr (h : SameOutline t t') (i : Inode) :
    t'.isDirectory i = t.isDirectory i := by
  unfold isDirectory
  rcases h.node?_cases i with hi | ⟨content, content', permissions, hi, hi'⟩
  · rw [hi]
  · rw [hi, hi']
    rfl

theorem allows_congr (h : SameOutline t t') (i : Inode) (r : Right) :
    t'.allows i r = t.allows i r := by
  unfold allows
  rcases h.node?_cases i with hi | ⟨content, content', permissions, hi, hi'⟩
  · rw [hi]
  · rw [hi, hi']
    rfl

theorem enterDirectory_congr (h : SameOutline t t') (start : Inode) (path : Bytes) :
    t'.enterDirectory start path = t.enterDirectory start path := by
  have hdirectory : t'.findDirectory start path = t.findDirectory start path := by
    unfold findDirectory
    simp only [find_congr h, isDirectory_congr h]
  unfold enterDirectory
  simp only [hdirectory, allows_congr h]

theorem nameIn_congr (h : SameOutline t t') (directory i : Inode) :
    t'.nameIn directory i = t.nameIn directory i := by
  unfold nameIn entries
  rcases h.node?_cases directory with hi | ⟨content, content', permissions, hi, hi'⟩
  · rw [hi]
  · rw [hi, hi']

theorem climb_congr (h : SameOutline t t') (fuel : Nat) (i : Inode) (below : Bytes) :
    t'.climb fuel i below = t.climb fuel i below := by
  induction fuel generalizing i below with
  | zero =>
    unfold climb
    rfl
  | succ fuel ih =>
    unfold climb
    split
    · rfl
    dsimp only
    rcases h.node?_cases i with hi | ⟨content, content', permissions, hi, hi'⟩
    · rw [hi]
      simp only [nameIn_congr h, ih]
    · rw [hi, hi']

theorem SameOutline.length_eq (h : SameOutline t t') : t'.nodes.length = t.nodes.length := by
  have hnone : ∀ j, t.nodes[j]? = none ↔ t'.nodes[j]? = none := fun j =>
    Option.map_eq_none_iff.symm.trans
      ((iff_of_eq (congrArg (· = none) (h j))).trans Option.map_eq_none_iff)
  simp only [List.getElem?_eq_none_iff] at hnone
  exact Nat.le_antisymm ((hnone _).1 (Nat.le_refl _)) ((hnone _).2 (Nat.le_refl _))

/-- **Nor do the paths of directories.** -/
theorem pathOf?_congr (h : SameOutline t t') (i : Inode) : t'.pathOf? i = t.pathOf? i := by
  unfold pathOf?
  rw [h.length_eq, climb_congr h]

theorem admits_congr (h : SameOutline t t') (directory : Inode) :
    t'.admits directory = t.admits directory := by
  unfold admits
  rcases h.node?_cases directory with hi | ⟨content, content', permissions, hi, hi'⟩
  · rw [hi]
  · rw [hi, hi']

/-- An absolute path leads to the same place from anywhere. -/
theorem walk_of_absolute (h : Path.isAbsolute path = true) (followLast : Bool)
    (start start' : Inode) : t.walk followLast start path = t.walk followLast start' path := by
  unfold walk
  rw [if_pos h, if_pos h]

/-! ### Vacant names -/

/-- The number is that of a directory which does not have the name. -/
def Lacks (t : FileTree) (directory : Inode) (name : Bytes) : Prop :=
  ∃ entries parent reachable permissions,
    t.node? directory = some ⟨.directory entries parent reachable, permissions⟩ ∧
      entries.get? name = none

theorem lacks_of_descend {followLast : Bool} {at_ : Inode} {entry : Option (Inode × Bytes)}
    {steps : List Bytes}
    (h : descend t followLast at_ entry steps = .reached (.vacant directory name)) :
    t.Lacks directory name := by
  fun_induction descend t followLast at_ entry steps
  case case6 hnode _ _ _ _ hget _ =>
    cases h
    exact ⟨_, _, _, _, hnode, hget⟩
  all_goals simp_all

/-- A walk ends at once or goes on behind a link. -/
theorem walkFrom_eq_ok_iff {followLast : Bool} {links : Nat} {start : Inode} {steps : List Bytes}
    {place : Place} : walkFrom t followLast links start steps = .ok place ↔
      descend t followLast start none steps = .reached place ∨
      ∃ at_ target rest fewer, descend t followLast start none steps = .detour at_ target rest ∧
        links = fewer + 1 ∧ walkFrom t followLast fewer
          (if Path.isAbsolute target then root else at_) (Path.components target ++ rest) =
            .ok place := by
  conv => lhs; unfold walkFrom
  cases descend t followLast start none steps with
  | failed e => simp
  | reached other => simp
  | detour at_ target rest =>
    cases links with
    | zero => simp
    -- Each link that is followed is one link less to follow.
    | succ fewer =>
      constructor
      · exact fun h => .inr ⟨at_, target, rest, fewer, rfl, rfl, h⟩
      · rintro (h | ⟨_, _, _, _, h, hlinks, hwalk⟩)
        · cases h
        · cases h
          cases hlinks
          exact hwalk

theorem lacks_of_walkFrom {followLast : Bool} {links : Nat} {start : Inode} {steps : List Bytes}
    (h : walkFrom t followLast links start steps = .ok (.vacant directory name)) :
    t.Lacks directory name := by
  induction links generalizing start steps with
  | zero =>
    obtain hstop | ⟨_, _, _, _, -, hlinks, -⟩ := walkFrom_eq_ok_iff.1 h
    · exact lacks_of_descend hstop
    · cases hlinks
  | succ links ih =>
    obtain hstop | ⟨_, _, _, fewer, -, hlinks, hwalk⟩ := walkFrom_eq_ok_iff.1 h
    · exact lacks_of_descend hstop
    · cases hlinks
      exact ih hwalk

/-! ### New files -/

variable {kind : NodeKind} {permissions : Permissions} {content : Bytes}

theorem node?_addNode (t : FileTree) (n : Node) (j : Inode) :
    (t.addNode n).1.node? j = if j = t.nodes.length then some n else t.node? j := by
  unfold addNode node?
  rcases Nat.lt_trichotomy j t.nodes.length with hj | rfl | hj
  · rw [List.getElem?_append_left hj, if_neg (Nat.ne_of_lt hj)]
  · rw [if_pos rfl, List.getElem?_concat_length]
  · rw [if_neg (Nat.ne_of_gt hj), List.getElem?_eq_none (Nat.le_of_lt hj)]
    exact List.getElem?_eq_none (by rw [List.length_append]; exact hj)

/-- The nodes once a new one has been made under a name that a directory lacks. -/
theorem node?_created (hcreate : t.create directory name n = .ok (t', i))
    (hlacks : t.Lacks directory name) :
    i = t.nodes.length ∧ t'.node? i = some n ∧
    (∃ entries parent reachable permissions,
      t.node? directory = some ⟨.directory entries parent reachable, permissions⟩ ∧
      entries.get? name = none ∧
      t'.node? directory = some ⟨.directory (entries.put name i) parent reachable, permissions⟩) ∧
    ∀ j, j ≠ i → j ≠ directory → t'.node? j = t.node? j := by
  obtain ⟨entries, parent, reachable, permissions, hnode, hget⟩ := hlacks
  unfold create at hcreate
  cases hadmits : t.admits directory with
  | error e =>
    rw [hadmits] at hcreate
    cases hcreate
  | ok _ =>
    rw [hadmits] at hcreate
    cases hcreate
    -- The directory was there before, so that adding the node has not moved it.
    have hlt : directory < t.nodes.length := (List.getElem?_eq_some_iff.1 hnode).1
    have hdirectory : (t.addNode n).1.node? directory =
        some ⟨.directory entries parent reachable, permissions⟩ := by
      rw [node?_addNode, if_neg (Nat.ne_of_lt hlt), hnode]
    -- The name is entered in the directory, and nothing else is touched.
    have hlinked : ∀ j, ((t.addNode n).1.link directory name t.nodes.length).node? j =
        if directory = j then some ⟨.directory (entries.put name t.nodes.length) parent reachable,
          permissions⟩ else if j = t.nodes.length then some n else t.node? j := by
      intro j
      unfold link
      rw [hdirectory]
      dsimp only
      rw [node?_setKind]
      split
      · rename_i heq
        rw [← heq, hdirectory]
        rfl
      · exact node?_addNode t n j
    refine ⟨rfl, ?_, ⟨entries, parent, reachable, permissions, hnode, hget, ?_⟩, fun j hj hj' => ?_⟩
    · show ((t.addNode n).1.link directory name t.nodes.length).node? t.nodes.length = _
      rw [hlinked, if_neg (Nat.ne_of_lt hlt), if_pos rfl]
    · show ((t.addNode n).1.link directory name t.nodes.length).node? directory = _
      rw [hlinked, if_pos rfl]
    · show ((t.addNode n).1.link directory name t.nodes.length).node? j = _
      rw [hlinked, if_neg (Ne.symm hj'), if_neg hj]

/-- A way that stopped at a vacant name stops at the node that fills it, and one that stopped at a
link stops there still. -/
def Stop.Filled (directory : Inode) (name : Bytes) (i : Inode) (s s' : Stop) : Prop :=
  (s = .reached (.vacant directory name) → s' = .reached (.occupied i (some (directory, name)))) ∧
    ∀ at_ target rest, s = .detour at_ target rest → s' = .detour at_ target rest

theorem Stop.Filled.refl {s : Stop} (h : s ≠ .reached (.vacant directory name)) :
    Stop.Filled directory name i s s := ⟨fun heq => absurd heq h, fun _ _ _ heq => heq⟩

theorem Stop.filled_failed (e : Errno) (s : Stop) : Stop.Filled directory name i (.failed e) s := by
  constructor
  · intro h
    cases h
  · intro _ _ _ h
    cases h

theorem Stop.filled_occupied (j : Inode) (entry : Option (Inode × Bytes)) (s : Stop) :
    Stop.Filled directory name i (.reached (.occupied j entry)) s := by
  constructor
  · intro h
    cases h
  · intro _ _ _ h
    cases h

theorem Stop.filled_vacant : Stop.Filled directory name i (.reached (.vacant directory name))
    (.reached (.occupied i (some (directory, name)))) := by
  constructor
  · exact fun _ => rfl
  · intro _ _ _ h
    cases h

/-- Behind the number that a new node will get there is nothing to walk to. -/
theorem descend_unused (h : t.node? i = none) (entry : Option (Inode × Bytes)) (steps : List Bytes) :
    descend t true i entry steps = .reached (.occupied i entry) ∨
      descend t true i entry steps = .failed .notDirectory := by
  cases steps with
  | nil => exact .inl rfl
  | cons name rest =>
    unfold descend
    rw [h]
    exact .inr rfl

/-- Where a walk that follows links goes on behind a name of a directory. -/
def behind (t : FileTree) (directory : Inode) (name : Bytes) (rest : List Bytes) (i : Inode) : Stop :=
  match t.node? i with
  | some ⟨.link target, _⟩ =>
    if rest.isEmpty && !true then .reached (.occupied i (some (directory, name)))
    else .detour directory target rest
  | _ => descend t true i (some (directory, name)) rest

/-- **Making a file fills the name and leaves the way to it.** -/
theorem descend_created (hcreate : t.create directory name ⟨.file content, permissions⟩ = .ok (t', i))
    (hlacks : t.Lacks directory name) (at_ : Inode) (entry : Option (Inode × Bytes))
    (steps : List Bytes) :
    Stop.Filled directory name i (descend t true at_ entry steps)
      (descend t' true at_ entry steps) := by
  obtain ⟨hi, hnew, ⟨entries, parent, reachable, owners, hnode, hget, hnode'⟩, hothers⟩ :=
    node?_created hcreate hlacks
  have hunused : t.node? i = none := by
    rw [hi]
    exact List.getElem?_eq_none (Nat.le_refl _)
  have hvoid : ∀ entry steps s', Stop.Filled directory name i (descend t true i entry steps) s' := by
    intro entry steps s'
    rcases descend_unused hunused entry steps with h | h
    · rw [h]
      exact Stop.filled_occupied i entry s'
    · rw [h]
      exact Stop.filled_failed .notDirectory s'
  induction steps generalizing at_ entry with
  | nil => exact Stop.filled_occupied at_ entry _
  | cons next rest ih =>
    -- What a name of a directory leads to, in both trees.
    have hchild : ∀ j, Stop.Filled directory name i (t.behind at_ next rest j)
        (t'.behind at_ next rest j) := by
      intro j
      unfold behind
      by_cases hj : j = i
      · subst hj
        rw [hunused]
        exact hvoid _ _ _
      by_cases hj' : j = directory
      · subst hj'
        rw [hnode, hnode']
        exact ih _ _
      rw [hothers j hj hj']
      rcases t.node? j with _ | ⟨kind, permissions⟩
      · exact ih _ _
      cases kind with
      | link target =>
        rw [Bool.not_true, Bool.and_false]
        refine .refl fun h => ?_
        cases h
      | _ => exact ih _ _
    have hdirectory : ∀ entries entries' parent reachable permissions,
        t.node? at_ = some ⟨.directory entries parent reachable, permissions⟩ →
        t'.node? at_ = some ⟨.directory entries' parent reachable, permissions⟩ →
        (entries'.get? next = entries.get? next ∧ ¬(at_ = directory ∧ next = name) ∨
          at_ = directory ∧ next = name ∧ entries.get? next = none ∧
            entries'.get? next = some i) →
        Stop.Filled directory name i (descend t true at_ entry (next :: rest))
          (descend t' true at_ entry (next :: rest)) := by
      intro entries entries' parent reachable permissions hat hat' hnext
      unfold descend
      rw [hat, hat']
      dsimp only
      by_cases hallows : (!permissions.allows .execute) = true
      · rw [if_pos hallows, if_pos hallows]
        exact Stop.filled_failed _ _
      rw [if_neg hallows, if_neg hallows]
      by_cases hdot : next = Path.dot
      · rw [if_pos hdot, if_pos hdot]
        exact ih _ _
      rw [if_neg hdot, if_neg hdot]
      by_cases hdots : next = Path.dots
      · rw [if_pos hdots, if_pos hdots]
        exact ih _ _
      rw [if_neg hdots, if_neg hdots]
      by_cases hlong : Path.nameLimit < next.length
      · rw [if_pos hlong, if_pos hlong]
        exact Stop.filled_failed _ _
      rw [if_neg hlong, if_neg hlong]
      rcases hnext with ⟨hsame, hother⟩ | ⟨rfl, rfl, hnone, hsome⟩
      · rw [hsame]
        cases entries.get? next with
        | none =>
          refine .refl fun h => hother ?_
          dsimp only at h
          split at h
          · cases h
            exact ⟨rfl, rfl⟩
          · cases h
        | some j => exact hchild j
      · rw [hnone, hsome]
        dsimp only
        rw [hnew]
        cases rest with
        | nil => exact Stop.filled_vacant
        | cons => exact Stop.filled_failed _ _
    by_cases hat : at_ = directory
    · subst hat
      refine hdirectory _ _ _ _ _ hnode hnode' ?_
      rw [Table.get?_put]
      by_cases hname : next = name
      · subst hname
        exact .inr ⟨rfl, rfl, hget, if_pos rfl⟩
      · exact .inl ⟨if_neg hname, fun h => hname h.2⟩
    by_cases hat' : at_ = i
    · subst hat'
      exact hvoid _ _ _
    have hsame := hothers at_ hat' hat
    rcases hat₀ : t.node? at_ with _ | ⟨kind, permissions⟩
    · unfold descend
      rw [hsame, hat₀]
      exact Stop.filled_failed _ _
    cases kind with
    | directory entries parent reachable =>
      exact hdirectory _ _ _ _ _ hat₀ (hsame.trans hat₀) (.inl ⟨rfl, fun h => hat h.1⟩)
    | _ =>
      unfold descend
      rw [hsame, hat₀]
      exact Stop.filled_failed _ _

theorem walkFrom_created
    (hcreate : t.create directory name ⟨.file content, permissions⟩ = .ok (t', i))
    (hlacks : t.Lacks directory name) {links : Nat} {start : Inode} {steps : List Bytes}
    (h : walkFrom t true links start steps = .ok (.vacant directory name)) :
    walkFrom t' true links start steps = .ok (.occupied i (some (directory, name))) := by
  induction links generalizing start steps with
  | zero =>
    obtain ⟨hfilled, -⟩ := descend_created hcreate hlacks start none steps
    obtain hstop | ⟨_, _, _, _, -, hlinks, -⟩ := walkFrom_eq_ok_iff.1 h
    · exact walkFrom_eq_ok_iff.2 (.inl (hfilled hstop))
    · cases hlinks
  | succ links ih =>
    obtain ⟨hfilled, hdetour⟩ := descend_created hcreate hlacks start none steps
    obtain hstop | ⟨at_, target, rest, fewer, hstop, hlinks, hwalk⟩ := walkFrom_eq_ok_iff.1 h
    · exact walkFrom_eq_ok_iff.2 (.inl (hfilled hstop))
    · cases hlinks
      exact walkFrom_eq_ok_iff.2
        (.inr ⟨at_, target, rest, links, hdetour _ _ _ hstop, rfl, ih hwalk⟩)

/-- **A path to a vacant name leads to the file that is made there.** -/
theorem walk_created {start : Inode}
    (h : t.walk true start path = .ok (.vacant directory name))
    (hcreate : t.create directory name ⟨.file content, permissions⟩ = .ok (t', i)) :
    i = t.nodes.length ∧ t'.node? i = some ⟨.file content, permissions⟩ ∧
      t'.walk true start path = .ok (.occupied i (some (directory, name))) := by
  unfold walk at h ⊢
  by_cases hempty : path.isEmpty
  · rw [if_pos hempty] at h
    cases h
  rw [if_neg hempty] at h ⊢
  by_cases hshort : !Path.isShort path
  · rw [if_pos hshort] at h
    cases h
  rw [if_neg hshort] at h ⊢
  have hlacks := lacks_of_walkFrom h
  obtain ⟨hi, hnew, -, -⟩ := node?_created hcreate hlacks
  exact ⟨hi, hnew, walkFrom_created hcreate hlacks h⟩

end FileTree

/-! ### Writes -/

namespace Machine

variable {m : Machine}

/-- A write to a file gives it other contents and moves the position. -/
theorem writeNode_file {i : Inode} {content : Bytes}
    (h : (m.tree.node? i).map Node.kind = some (.file content)) (d : Nat) (desc : Description)
    (bytes : Bytes) :
    m.writeNode i d desc bytes =
      let offset := if desc.append then content.length else desc.offset
      { m with tree := m.tree.setKind i (.file (overwrite content offset bytes)) }.setOffset d
        (offset + bytes.length) := by
  obtain ⟨⟨kind, permissions⟩, hnode, rfl⟩ := Option.map_eq_some_iff.1 h
  unfold writeNode
  rw [hnode]

theorem sameOutline_writeNode (m : Machine) (i : Inode) (d : Nat) (desc : Description)
    (bytes : Bytes) : m.tree.SameOutline (m.writeNode i d desc bytes).tree := by
  unfold writeNode
  split
  · rename_i content permissions hnode
    exact FileTree.sameOutline_setKind (by rw [hnode]; rfl) _
  · exact .refl _

/-- **A write changes no outline.** -/
theorem sameOutline_writeTo {m' : Machine} {d : Nat} {bytes : Bytes}
    (h : m.writeTo d bytes = .ok m') : m.tree.SameOutline m'.tree := by
  cases wrote_of_writeTo h with
  | node => exact sameOutline_writeNode m _ d _ bytes
  | pipe | out | err | lost => exact .refl _

theorem sameOutline_written (t : DescriptorTable) (fd : Nat) (bytes : Bytes) (m : Machine) :
    m.tree.SameOutline (m.written t fd bytes).tree := by
  rcases written_cases t fd bytes m with hlost | ⟨handle, -, hwrite⟩
  · rw [hlost]
    exact .refl _
  · exact sameOutline_writeTo hwrite

theorem sameOutline_foldl_noted (log : Option Log.Sink) (t : DescriptorTable)
    (records : List Log.Record) (m : Machine) :
    m.tree.SameOutline (records.foldl (noted log t) m).tree :=
  foldl_noted_of_written (P := fun m' => m.tree.SameOutline m'.tree)
    (fun _ _ m' bytes h => h.trans (sameOutline_written t _ bytes m')) records (.refl _)

end Machine

end LineShell
