import LinePatch.FileSystem.Walk

/-!
# Where paths lead

Following a path either leads to some place or fails. `Leads` tells the ways that lead to a place apart, one
rule for each kind of name, and says of each all that it needs; what holds of places reached is proved along
these rules.

## Main definitions

* `Purpose.LooksUp`: a name that is looked up in a directory
* `FileSystem.Leads`: names that lead from a directory to a place

## Main results

* `FileSystem.walk_eq_ok_iff`, `FileSystem.follow_eq_ok_iff`: following a path leads to a place exactly by
  these rules
* `FileSystem.Leads.use`, `FileSystem.Leads.create`: a path leads to the same node whether it is to be used
  or to be created, unless it ends in a directory
-/

namespace LinePatch

/-- The name, with `rest` to follow behind it, is looked up in a directory. -/
structure Purpose.LooksUp (purpose : Purpose) (name : String) (rest : List String)
    (trailingSlash : Bool) : Prop where
  ne_dot : name ≠ "."
  ne_dotdot : name ≠ ".."
  /-- A file to be created cannot have a slash behind its name. -/
  slash : purpose = .create → rest = [] → trailingSlash = false
  fits : name.utf8ByteSize ≤ Path.maxNameBytes

/-- Only the slash depends on what a path is followed for. -/
theorem Purpose.LooksUp.of_slash {purpose other : Purpose} {name : String} {rest : List String}
    {trailingSlash : Bool} (h : purpose.LooksUp name rest trailingSlash)
    (hslash : other = .create → trailingSlash = false) : other.LooksUp name rest trailingSlash where
  ne_dot := h.ne_dot
  ne_dotdot := h.ne_dotdot
  slash hother _ := hslash hother
  fits := h.fits

namespace FileSystem

/-- From a directory, and with at most `links` links on the way, the names lead to a place. -/
inductive Leads (files : FileSystem) (purpose : Purpose) :
    Nat → NodeId → List String → Bool → Place → Prop
  /-- No name is left. Behind a slash there has to be a directory. -/
  | here {links directory trailingSlash}
      (h : trailingSlash = true → (files.directory? directory).isSome) :
      Leads files purpose links directory [] trailingSlash (.node directory)
  | dot {links directory rest trailingSlash place} (hdirectory : (files.directory? directory).isSome)
      (h : Leads files purpose links directory rest trailingSlash place) :
      Leads files purpose links directory ("." :: rest) trailingSlash place
  | dotdot {links directory parent entries rest trailingSlash place}
      (hdirectory : files.directory? directory = some (parent, entries))
      (h : Leads files purpose links parent rest trailingSlash place) :
      Leads files purpose links directory (".." :: rest) trailingSlash place
  /-- The last name is missing. -/
  | vacant {links directory parent entries name trailingSlash}
      (hname : purpose.LooksUp name [] trailingSlash)
      (hdirectory : files.directory? directory = some (parent, entries))
      (hlookup : entries.lookup name = none) :
      Leads files purpose links directory [name] trailingSlash (.vacant directory name)
  /-- The name is that of a node which is no link. -/
  | child {links directory parent entries name id rest trailingSlash place}
      (hname : purpose.LooksUp name rest trailingSlash)
      (hdirectory : files.directory? directory = some (parent, entries))
      (hlookup : entries.lookup name = some id)
      (hnode : ∀ target, files.node? id ≠ some (.link target))
      (h : Leads files purpose links id rest trailingSlash place) :
      Leads files purpose links directory (name :: rest) trailingSlash place
  /-- The name is that of a link, which is followed. -/
  | link {links directory parent entries name id target rest trailingSlash place}
      (hname : purpose.LooksUp name rest trailingSlash)
      (hdirectory : files.directory? directory = some (parent, entries))
      (hlookup : entries.lookup name = some id) (hnode : files.node? id = some (.link target))
      (hfollow : purpose = .entry → rest ≠ [])
      (h : Leads files purpose links
        (files.origin directory ((Path.ofText target).followedBy rest trailingSlash))
        ((Path.ofText target).followedBy rest trailingSlash).names
        ((Path.ofText target).followedBy rest trailingSlash).trailingSlash place) :
      Leads files purpose (links + 1) directory (name :: rest) trailingSlash place
  /-- The path is meant for the link at its end. -/
  | linkItself {links directory parent entries name id target trailingSlash}
      (hpurpose : purpose = .entry) (hname : purpose.LooksUp name [] trailingSlash)
      (hdirectory : files.directory? directory = some (parent, entries))
      (hlookup : entries.lookup name = some id) (hnode : files.node? id = some (.link target)) :
      Leads files purpose links directory [name] trailingSlash (.node id)

variable {files : FileSystem} {purpose : Purpose} {links : Nat} {directory parent : NodeId}
  {entries : List (String × NodeId)} {name : String} {names rest : List String}
  {trailingSlash : Bool} {place : Place}

/-! ## Following a path -/

/-- Follows a link, if one may still be followed. -/
def followLink (files : FileSystem) (purpose : Purpose) : Nat → NodeId → Path → Except Errno Place
  | 0 => fun _ _ => .error .tooManyLinks
  | links + 1 => files.walk purpose links

theorem walk_eq_descend (path : Path) :
    files.walk purpose links directory path =
      files.descend purpose (files.followLink purpose links) (files.origin directory path) path.names
        path.trailingSlash := by
  cases links <;> rfl

/-- What becomes of a name that is looked up. -/
theorem descend_lookup {followLink : NodeId → Path → Except Errno Place}
    (hname : purpose.LooksUp name rest trailingSlash)
    (hdirectory : files.directory? directory = some (parent, entries)) :
    files.descend purpose followLink directory (name :: rest) trailingSlash =
      match entries.lookup name with
      | none => if rest.isEmpty then .ok (.vacant directory name) else .error .noSuchFile
      | some id =>
        match files.node? id with
        | some (.link target) =>
          if purpose = .entry && rest.isEmpty then .ok (.node id)
          else followLink directory ((Path.ofText target).followedBy rest trailingSlash)
        | _ => files.descend purpose followLink id rest trailingSlash := by
  have hslash : (purpose = .create && rest.isEmpty && trailingSlash) = false := by
    have hslash := hname.slash
    cases trailingSlash <;> simp_all
  have hdescend := descend.eq_def files purpose followLink directory (name :: rest) trailingSlash
  simp only [hdirectory, if_neg hname.ne_dot, if_neg hname.ne_dotdot, hslash, Bool.false_eq_true,
    if_false, if_neg (Nat.not_lt.mpr hname.fits)] at hdescend
  exact hdescend

/-- A walk down some names goes by the rules, if following the links does. -/
theorem leads_of_descend
    (hlinks : ∀ directory path place, files.followLink purpose links directory path = .ok place →
      ∃ fewer, links = fewer + 1 ∧ files.Leads purpose fewer (files.origin directory path) path.names
        path.trailingSlash place)
    (h : files.descend purpose (files.followLink purpose links) directory names trailingSlash =
      .ok place) : files.Leads purpose links directory names trailingSlash place := by
  induction names generalizing directory with
  | nil =>
    rw [descend] at h
    split at h
    next => cases h
    next hslash =>
      obtain rfl := Except.ok.inj h
      refine .here ?_
      intro htrailing
      simpa [htrailing, Option.isSome_iff_ne_none] using hslash
  | cons name rest ih =>
    cases hdirectory : files.directory? directory with
    | none => simp [descend, hdirectory] at h
    | some found =>
      obtain ⟨parent, entries⟩ := found
      by_cases hdot : name = "."
      · subst hdot
        rw [descend_dot hdirectory] at h
        exact .dot (by simp [hdirectory]) (ih h)
      by_cases hdotdot : name = ".."
      · subst hdotdot
        rw [descend_dotdot hdirectory] at h
        exact .dotdot hdirectory (ih h)
      have hname : purpose.LooksUp name rest trailingSlash := by
        simp only [descend, hdirectory, if_neg hdot, if_neg hdotdot] at h
        split at h
        next => cases h
        next hslash =>
        split at h
        next => cases h
        next hfits =>
          refine ⟨hdot, hdotdot, ?_, Nat.not_lt.mp hfits⟩
          intro hcreate hrest
          simpa [hcreate, hrest] using hslash
      rw [descend_lookup hname hdirectory] at h
      split at h
      next hlookup =>
        split at h
        next hrest =>
          obtain rfl := Except.ok.inj h
          obtain rfl := List.isEmpty_iff.mp hrest
          exact .vacant hname hdirectory hlookup
        next => cases h
      next id hlookup =>
        split at h
        next target hnode =>
          split at h
          next hentry =>
            obtain rfl := Except.ok.inj h
            obtain ⟨hpurpose, rfl⟩ : purpose = .entry ∧ rest = [] := by simpa using hentry
            exact .linkItself hpurpose hname hdirectory hlookup hnode
          next hentry =>
            obtain ⟨fewer, rfl, hleads⟩ := hlinks _ _ _ h
            refine .link hname hdirectory hlookup hnode ?_ hleads
            intro hpurpose
            simpa [hpurpose] using hentry
        next hnode => exact .child hname hdirectory hlookup hnode (ih h)

theorem Leads.descend_eq (h : files.Leads purpose links directory names trailingSlash place) :
    files.descend purpose (files.followLink purpose links) directory names trailingSlash =
      .ok place := by
  induction h with
  | @here links directory trailingSlash h =>
    rw [descend, if_neg]
    cases trailingSlash <;> simp_all [Option.isSome_iff_ne_none]
  | dot hdirectory _ ih =>
    obtain ⟨⟨parent, entries⟩, hfound⟩ := Option.isSome_iff_exists.mp hdirectory
    rw [descend_dot hfound, ih]
  | dotdot hdirectory _ ih => rw [descend_dotdot hdirectory, ih]
  | vacant hname hdirectory hlookup =>
    rw [descend_lookup hname hdirectory, hlookup]
    rfl
  | child hname hdirectory hlookup hnode _ ih =>
    rw [descend_lookup hname hdirectory, hlookup]
    dsimp only
    split
    next target hlink => exact absurd hlink (hnode target)
    next => exact ih
  | link hname hdirectory hlookup hnode hfollow _ ih =>
    rw [descend_lookup hname hdirectory, hlookup]
    dsimp only
    rw [hnode]
    dsimp only
    rw [if_neg (by simpa using hfollow), ← ih, ← walk_eq_descend]
    rfl
  | linkItself hpurpose hname hdirectory hlookup hnode =>
    rw [descend_lookup hname hdirectory, hlookup]
    dsimp only
    rw [hnode]
    dsimp only
    rw [if_pos (by simp [hpurpose])]

/-- Following a path leads exactly where the rules do. Each link that is followed uses up one of those that may
be. -/
theorem walk_eq_ok_iff {path : Path} :
    files.walk purpose links directory path = .ok place ↔
      files.Leads purpose links (files.origin directory path) path.names path.trailingSlash place := by
  rw [walk_eq_descend]
  refine ⟨?_, Leads.descend_eq⟩
  intro h
  induction links generalizing directory path place with
  | zero => exact leads_of_descend nofun h
  | succ links ih =>
    refine leads_of_descend ?_ h
    intro directory path place hfollow
    refine ⟨links, rfl, ih ?_⟩
    rw [← walk_eq_descend]
    exact hfollow

theorem follow_eq_ok_iff {text : String} :
    files.follow purpose text = .ok place ↔
      ∃ path, Path.ofArgument text = .ok path ∧
        files.Leads purpose maxLinks (files.origin files.working path) path.names path.trailingSlash
          place := by
  simp only [follow, ← walk_eq_ok_iff]
  cases Path.ofArgument text with
  | error error => simp
  | ok path =>
    simp only [Except.ok.injEq, exists_eq_left']
    cases files.walk purpose maxLinks files.working path with
    | error errno => exact ⟨nofun, nofun⟩
    | ok found => exact ⟨fun h => congrArg _ (Except.ok.inj h), fun h => congrArg _ (Except.ok.inj h)⟩

/-! ## Using and creating -/

namespace Leads

variable {id : NodeId}

/-- What is to be created stands where it would be used. -/
theorem use (h : files.Leads .create links directory names trailingSlash place) :
    files.Leads .use links directory names trailingSlash place := by
  induction h with
  | here h => exact .here h
  | dot hdirectory _ ih => exact .dot hdirectory ih
  | dotdot hdirectory _ ih => exact .dotdot hdirectory ih
  | vacant hname hdirectory hlookup => exact .vacant (hname.of_slash nofun) hdirectory hlookup
  | child hname hdirectory hlookup hnode _ ih =>
    exact .child (hname.of_slash nofun) hdirectory hlookup hnode ih
  | link hname hdirectory hlookup hnode _ _ ih =>
    exact .link (hname.of_slash nofun) hdirectory hlookup hnode nofun ih
  | linkItself hpurpose => cases hpurpose

/-- A path to what is no directory has no slash at its end, and no link on the way puts one there. -/
theorem trailingSlash_eq_false (h : files.Leads .use links directory names trailingSlash (.node id))
    (hid : files.directory? id = none) : trailingSlash = false := by
  generalize hplace : Place.node id = place at h
  induction h with
  | @here _ _ trailingSlash h =>
    cases hplace
    cases trailingSlash with
    | false => rfl
    | true =>
      have hsome := h rfl
      rw [hid] at hsome
      cases hsome
  | dot _ _ ih => exact ih hplace
  | dotdot _ _ ih => exact ih hplace
  | vacant => cases hplace
  | child _ _ _ _ _ ih => exact ih hplace
  | link _ _ _ _ _ _ ih =>
    have hfalse := ih hplace
    exact (Bool.or_eq_false_iff.mp hfalse).1
  | linkItself hpurpose => cases hpurpose

/-- What is used, and is no directory, need not be created. -/
theorem create (h : files.Leads .use links directory names trailingSlash (.node id))
    (hid : files.directory? id = none) :
    files.Leads .create links directory names trailingSlash (.node id) := by
  have hslash := h.trailingSlash_eq_false hid
  generalize hplace : Place.node id = place at h ⊢
  induction h with
  | here h => exact .here h
  | dot hdirectory _ ih => exact .dot hdirectory (ih hslash hplace)
  | dotdot hdirectory _ ih => exact .dotdot hdirectory (ih hslash hplace)
  | vacant => cases hplace
  | child hname hdirectory hlookup hnode _ ih =>
    exact .child (hname.of_slash fun _ => hslash) hdirectory hlookup hnode (ih hslash hplace)
  | link hname hdirectory hlookup hnode _ hrest ih =>
    subst hplace
    exact .link (hname.of_slash fun _ => hslash) hdirectory hlookup hnode nofun
      (ih (hrest.trailingSlash_eq_false hid) rfl)
  | linkItself hpurpose => cases hpurpose

/-- A name is vacant in a directory that does not have it. -/
theorem exists_of_vacant {vacancy : NodeId}
    (h : files.Leads purpose links directory names trailingSlash (.vacant vacancy name)) :
    ∃ parent entries, files.directory? vacancy = some (parent, entries) ∧
      entries.lookup name = none := by
  generalize hplace : Place.vacant vacancy name = place at h
  induction h with
  | here => cases hplace
  | dot _ _ ih => exact ih hplace
  | dotdot _ _ ih => exact ih hplace
  | vacant _ hdirectory hlookup =>
    cases hplace
    exact ⟨_, _, hdirectory, hlookup⟩
  | child _ _ _ _ _ ih => exact ih hplace
  | link _ _ _ _ _ _ ih => exact ih hplace
  | linkItself => cases hplace

end Leads

end FileSystem

end LinePatch
