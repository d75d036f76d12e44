import LinePatch.FileSystem.Open
import LinePatch.Proofs.FileSystem.Leads

/-!
# File systems that grow

A file that is patched gets bytes at its end, and perhaps a name before that. Neither takes a name away or
makes a link, so every path that led to a node still leads there. A path to a vacant name leads to the file
that is put there.

## Main definitions

* `Node.extend`, `FileSystem.extend`: bytes at the end of a file
* `FileSystem.KeepsPaths`: no name is lost, and the links are the same
* `FileSystem.Filled`: where a path to a vacant name leads once it is filled

## Main results

* `FileSystem.keepsPaths_extend`, `FileSystem.keepsPaths_addNamed`: what keeps paths
* `FileSystem.KeepsPaths.leads`, `FileSystem.KeepsPaths.openInput`: paths lead where they led
-/

namespace LinePatch

/-- Adds bytes at the end of a file. Other nodes have no end. -/
def Node.extend (bytes : Bytes) : Node → Node
  | .file contents => .file (contents ++ bytes)
  | node => node

@[simp] theorem Node.extend_nil (node : Node) : node.extend [] = node := by
  cases node <;> simp [extend]

@[simp] theorem Node.extend_extend (node : Node) (bytes more : Bytes) :
    (node.extend bytes).extend more = node.extend (bytes ++ more) := by
  cases node <;> simp [extend]

namespace FileSystem

variable {files middle next : FileSystem} {id directory parent : NodeId} {name : String}
  {entries : List (String × NodeId)}

theorem ext_node? (hroot : files.root = next.root) (hworking : files.working = next.working)
    (h : ∀ id, files.node? id = next.node? id) : files = next := by
  obtain ⟨nodes, root, working⟩ := files
  obtain ⟨nodes', root', working'⟩ := next
  obtain rfl : root = root' := hroot
  obtain rfl : working = working' := hworking
  obtain rfl : nodes = nodes' := Array.ext_getElem? h
  rfl

theorem directory?_eq_some_iff :
    files.directory? id = some (parent, entries) ↔ files.node? id = some (.directory parent entries) := by
  unfold directory?
  split <;> simp_all

theorem lt_size_of_node? {node : Node} (h : files.node? id = some node) : id < files.nodes.size :=
  (Array.getElem?_eq_some_iff.mp h).1

theorem ne_size_of_directory? (h : files.directory? id = some (parent, entries)) :
    id ≠ files.nodes.size :=
  Nat.ne_of_lt (lt_size_of_node? (directory?_eq_some_iff.mp h))

theorem node?_size (files : FileSystem) : files.node? files.nodes.size = none :=
  Array.getElem?_eq_none (Nat.le_refl _)

theorem node?_setNode_self {node : Node} (h : files.node? id = some node) (node' : Node) :
    (files.setNode id node').node? id = some node' := by
  rw [node?_setNode, if_pos rfl, h]
  rfl

/-! ## Bytes at the end of a file -/

/-- Adds bytes at the end of a file. -/
def extend (files : FileSystem) (id : NodeId) (bytes : Bytes) : FileSystem :=
  { files with nodes := files.nodes.modify id (Node.extend bytes) }

theorem node?_extend (files : FileSystem) (id other : NodeId) (bytes : Bytes) :
    (files.extend id bytes).node? other =
      if id = other then (files.node? other).map (Node.extend bytes) else files.node? other := by
  simp only [node?, extend, Array.getElem?_modify]

theorem node?_extend_self {contents : Bytes} (h : files.node? id = some (.file contents)) (bytes : Bytes) :
    (files.extend id bytes).node? id = some (.file (contents ++ bytes)) := by
  rw [node?_extend, if_pos rfl, h]
  rfl

@[simp] theorem extend_nil (files : FileSystem) (id : NodeId) : files.extend id [] = files := by
  refine ext_node? rfl rfl ?_
  intro other
  rw [node?_extend]
  split
  next => cases files.node? other <;> simp
  next => rfl

@[simp] theorem extend_extend (files : FileSystem) (id : NodeId) (bytes more : Bytes) :
    (files.extend id bytes).extend id more = files.extend id (bytes ++ more) := by
  refine ext_node? rfl rfl ?_
  intro other
  by_cases h : id = other <;> simp [node?_extend, h, Function.comp_def]

/-- To write behind what a file holds is to extend it. -/
theorem setNode_eq_extend {contents : Bytes} (h : files.node? id = some (.file contents))
    (bytes : Bytes) : files.setNode id (.file (contents ++ bytes)) = files.extend id bytes := by
  refine ext_node? rfl rfl ?_
  intro other
  rw [node?_setNode, node?_extend]
  split
  next heq =>
    subst heq
    rw [h]
    rfl
  next => rfl

/-- What is no file does not change. -/
theorem extend_eq_self (h : ∀ contents, files.node? id ≠ some (.file contents)) (bytes : Bytes) :
    files.extend id bytes = files := by
  refine ext_node? rfl rfl ?_
  intro other
  rw [node?_extend]
  split
  next heq =>
    subst heq
    match hnode : files.node? id with
    | some (.file contents) => exact absurd hnode (h contents)
    | some (.directory _ _) | some (.link _) | some (.device _) | none => rfl
  next => rfl

/-! ## Names in a directory -/

/-- A node that is added with a name takes a free number, and nothing else changes but the directory. -/
theorem node?_addNamed (hdirectory : files.directory? directory = some (parent, entries)) (node : Node)
    (other : NodeId) :
    (files.addNamed directory name node).2.node? other =
      if directory = other then some (.directory parent (entries ++ [(name, files.nodes.size)]))
      else if other = files.nodes.size then some node
      else files.node? other := by
  have hnode := directory?_eq_some_iff.mp hdirectory
  have hne := ne_size_of_directory? hdirectory
  have hadded : (files.addNode node).2.node? directory = some (.directory parent entries) := by
    rw [node?_addNode, if_neg hne, hnode]
  have hmodified : (files.addNamed directory name node).2 = (files.addNode node).2.setNode directory
      (.directory parent (entries ++ [(name, files.nodes.size)])) := by
    simp only [addNamed, setName, modifyEntries, hadded]
    rfl
  rw [hmodified, node?_setNode, hadded, node?_addNode]
  rfl

theorem node?_addNamed_self (hdirectory : files.directory? directory = some (parent, entries))
    (name : String) (node : Node) :
    (files.addNamed directory name node).2.node? files.nodes.size = some node := by
  rw [node?_addNamed hdirectory, if_neg (ne_size_of_directory? hdirectory), if_pos rfl]

theorem directory?_addNamed (hdirectory : files.directory? directory = some (parent, entries))
    (name : String) (node : Node) :
    (files.addNamed directory name node).2.directory? directory =
      some (parent, entries ++ [(name, files.nodes.size)]) := by
  rw [directory?_eq_some_iff, node?_addNamed hdirectory, if_pos rfl]

/-! ## Paths that are kept -/

/-- Directories have kept their names, in order and before any new ones, and the links are the same. -/
structure KeepsPaths (files next : FileSystem) : Prop where
  root_eq : next.root = files.root
  working_eq : next.working = files.working
  directory : ∀ {id parent entries}, files.directory? id = some (parent, entries) →
    ∃ more, next.directory? id = some (parent, entries ++ more)
  link : ∀ {id target}, next.node? id = some (.link target) ↔ files.node? id = some (.link target)

theorem KeepsPaths.refl (files : FileSystem) : files.KeepsPaths files where
  root_eq := rfl
  working_eq := rfl
  directory h := ⟨[], by rwa [List.append_nil]⟩
  link := .rfl

theorem KeepsPaths.trans (h : files.KeepsPaths middle) (h' : middle.KeepsPaths next) :
    files.KeepsPaths next where
  root_eq := h'.root_eq.trans h.root_eq
  working_eq := h'.working_eq.trans h.working_eq
  directory hdirectory := by
    obtain ⟨more, hmiddle⟩ := h.directory hdirectory
    obtain ⟨others, hnext⟩ := h'.directory hmiddle
    exact ⟨more ++ others, by rw [hnext, List.append_assoc]⟩
  link := h'.link.trans h.link

/-- Only the bytes of files have changed. -/
theorem KeepsPaths.of_node? (hroot : next.root = files.root) (hworking : next.working = files.working)
    (h : ∀ id, next.node? id = files.node? id ∨
      ∃ contents contents', files.node? id = some (.file contents) ∧
        next.node? id = some (.file contents')) : files.KeepsPaths next where
  root_eq := hroot
  working_eq := hworking
  directory {id parent entries} hdirectory := by
    refine ⟨[], ?_⟩
    rw [List.append_nil]
    rw [directory?_eq_some_iff] at hdirectory ⊢
    rcases h id with heq | ⟨contents, -, hfile, -⟩
    · rw [heq, hdirectory]
    · rw [hfile] at hdirectory
      cases hdirectory
  link {id target} := by
    rcases h id with heq | ⟨_, _, hfile, hfile'⟩
    · rw [heq]
    · simp [hfile, hfile']

theorem keepsPaths_setNode {contents : Bytes} (h : files.node? id = some (.file contents))
    (contents' : Bytes) : files.KeepsPaths (files.setNode id (.file contents')) := by
  refine .of_node? rfl rfl ?_
  intro other
  rw [node?_setNode]
  split
  next heq =>
    subst heq
    exact .inr ⟨contents, contents', h, by rw [h]; rfl⟩
  next => exact .inl rfl

theorem keepsPaths_extend (files : FileSystem) (id : NodeId) (bytes : Bytes) :
    files.KeepsPaths (files.extend id bytes) := by
  refine .of_node? rfl rfl ?_
  intro other
  rw [node?_extend]
  split
  next heq =>
    match files.node? other with
    | some (.file contents) => exact .inr ⟨contents, contents ++ bytes, rfl, rfl⟩
    | some (.directory _ _) | some (.link _) | some (.device _) | none => exact .inl rfl
  next => exact .inl rfl

theorem keepsPaths_addNamed (hdirectory : files.directory? directory = some (parent, entries))
    (contents : Bytes) :
    files.KeepsPaths (files.addNamed directory name (.file contents)).2 where
  root_eq := by
    simp only [addNamed, setName, modifyEntries]
    split <;> rfl
  working_eq := by
    simp only [addNamed, setName, modifyEntries]
    split <;> rfl
  directory {id parent' entries'} hid := by
    simp only [directory?_eq_some_iff, node?_addNamed hdirectory] at hid ⊢
    by_cases hsame : directory = id
    · subst hsame
      rw [directory?_eq_some_iff, hid] at hdirectory
      cases hdirectory
      exact ⟨[(name, files.nodes.size)], if_pos rfl⟩
    · have hsize : id ≠ files.nodes.size := Nat.ne_of_lt (lt_size_of_node? hid)
      refine ⟨[], ?_⟩
      rw [if_neg hsame, if_neg hsize, hid, List.append_nil]
  link {id target} := by
    rw [node?_addNamed hdirectory]
    split
    next heq =>
      subst heq
      simp [directory?_eq_some_iff.mp hdirectory]
    next =>
      split
      next heq => simp [heq, node?_size]
      next => rfl

/-- Where a path leads once a name that was vacant has been given to a node. -/
inductive Filled (next : FileSystem) : Purpose → Place → Place → Prop
  | node {purpose} (id : NodeId) : Filled next purpose (.node id) (.node id)
  | vacant {directory parent id : NodeId} {entries : List (String × NodeId)} {name : String}
      (hdirectory : next.directory? directory = some (parent, entries))
      (hlookup : entries.lookup name = some id)
      (hnode : ∀ target, next.node? id ≠ some (.link target)) :
      Filled next .create (.vacant directory name) (.node id)

namespace KeepsPaths

variable {purpose : Purpose} {links : Nat} {start : NodeId} {names : List String} {trailingSlash : Bool}
  {path : String}

theorem isSome_directory? (h : files.KeepsPaths next) (hid : (files.directory? id).isSome) :
    (next.directory? id).isSome := by
  obtain ⟨⟨parent, entries⟩, hdirectory⟩ := Option.isSome_iff_exists.mp hid
  obtain ⟨more, hnext⟩ := h.directory hdirectory
  rw [hnext]
  rfl

/-- The names that a directory has are found in it as before. -/
theorem lookup (h : files.KeepsPaths next)
    (hdirectory : files.directory? directory = some (parent, entries))
    (hlookup : entries.lookup name = some id) :
    ∃ entries', next.directory? directory = some (parent, entries') ∧
      entries'.lookup name = some id := by
  obtain ⟨more, hnext⟩ := h.directory hdirectory
  refine ⟨entries ++ more, hnext, ?_⟩
  rw [List.lookup_append, hlookup]
  rfl

theorem origin_eq (h : files.KeepsPaths next) (start : NodeId) (path : Path) :
    next.origin start path = files.origin start path := by
  simp only [origin, h.root_eq]

/-- A path that led to a node still does, and one that led to a vacant name leads to what is put there. -/
theorem leads (h : files.KeepsPaths next) {place place' : Place}
    (hleads : files.Leads purpose links start names trailingSlash place)
    (hfilled : next.Filled purpose place place') :
    next.Leads purpose links start names trailingSlash place' := by
  induction hleads with
  | here hdirectory =>
    cases hfilled
    exact .here fun hslash => h.isSome_directory? (hdirectory hslash)
  | dot hdirectory _ ih => exact .dot (h.isSome_directory? hdirectory) (ih hfilled)
  | dotdot hdirectory _ ih =>
    obtain ⟨more, hnext⟩ := h.directory hdirectory
    exact .dotdot hnext (ih hfilled)
  | vacant hname =>
    cases hfilled with
    | vacant hdirectory hlookup hnode =>
      refine .child hname hdirectory hlookup hnode (.here ?_)
      intro hslash
      rw [hname.slash rfl rfl] at hslash
      cases hslash
  | child hname hdirectory hlookup hnode _ ih =>
    obtain ⟨entries', hnext, hlookup'⟩ := h.lookup hdirectory hlookup
    refine .child hname hnext hlookup' ?_ (ih hfilled)
    intro target hlink
    exact hnode target (h.link.mp hlink)
  | link hname hdirectory hlookup hnode hfollow _ ih =>
    obtain ⟨entries', hnext, hlookup'⟩ := h.lookup hdirectory hlookup
    refine .link hname hnext hlookup' (h.link.mpr hnode) hfollow ?_
    rw [h.origin_eq]
    exact ih hfilled
  | linkItself hpurpose hname hdirectory hlookup hnode =>
    cases hfilled
    obtain ⟨entries', hnext, hlookup'⟩ := h.lookup hdirectory hlookup
    exact .linkItself hpurpose hname hnext hlookup' (h.link.mpr hnode)

theorem follow (h : files.KeepsPaths next) {place place' : Place}
    (hfollow : files.follow purpose path = .ok place) (hfilled : next.Filled purpose place place') :
    next.follow purpose path = .ok place' := by
  obtain ⟨argument, hargument, hleads⟩ := follow_eq_ok_iff.mp hfollow
  refine follow_eq_ok_iff.mpr ⟨argument, hargument, ?_⟩
  rw [h.origin_eq, h.working_eq]
  exact h.leads hleads hfilled

theorem openInput (h : files.KeepsPaths next) (hopen : files.openInput path = .ok id) :
    next.openInput path = .ok id := by
  rw [openInput_eq_ok_iff] at hopen ⊢
  exact h.follow hopen (.node id)

end KeepsPaths

end FileSystem

end LinePatch
