import MakeCheck.FileStore.Basic
import Mathlib.Data.List.Induction

namespace MakeCheck

theorem Path.pieces_ne_nil (path : Path) : path.pieces ≠ [] := by
  simp [pieces]

-- What a chain of steps gives comes from each of its steps.
theorem exists_of_bind {ε α β : Type} {step : Except ε α} {next : α → Except ε β} {b : β}
    (hbind : step >>= next = .ok b) : ∃ a, step = .ok a ∧ next a = .ok b := by
  cases step with
  | error fault => cases hbind
  | ok a => exact ⟨a, rfl, hbind⟩

namespace Node

-- A node but for the time of its last change.
def timeless (node : Node) : Node :=
  { node with modified := 0 }

-- What is there is never said to be missing.
theorem refusal?_ne_notFound (node : Node) (user : User) (right : Right) :
    node.refusal? user right ≠ some .notFound := by
  rw [refusal?]
  split
  · intro hfailing
    obtain ⟨trouble, -, htrouble⟩ := Option.map_eq_some_iff.mp hfailing
    exact trouble.property htrouble
  · decide

theorem obstacle?_timeless (node : Node) (user : User) (name : String) :
    node.timeless.obstacle? user name = node.obstacle? user name :=
  rfl

theorem obstacle?_ne_notFound (node : Node) (user : User) (name : String) :
    node.obstacle? user name ≠ some .notFound := by
  have hnever := node.refusal?_ne_notFound user .enter
  rw [obstacle?]
  split
  · decide
  · split
    · decide
    · cases hrefusal : node.refusal? user .enter with
      | some fault => simpa [hrefusal] using hnever
      | none => split <;> simp

theorem content_of_obstacle? {node : Node} {user : User} {name : String}
    (hopen : node.obstacle? user name = none) : node.content = .directory := by
  rw [obstacle?] at hopen
  split at hopen
  · cases hopen
  · exact not_not.mp ‹_›

end Node

namespace FileStore

theorem lookup_filter {α β : Type} [BEq α] [LawfulBEq α] (entries : List (α × β)) (keeps : α → Bool)
    (key : α) : (entries.filter fun entry => keeps entry.1).lookup key =
      if keeps key then entries.lookup key else none := by
  induction entries with
  | nil => simp
  | cons entry entries ih =>
      obtain ⟨first, value⟩ := entry
      by_cases hkey : key = first
      · subst hkey
        by_cases hkeeps : keeps key = true <;> simp [hkeeps, ih]
      · have hne : (key == first) = false := by simpa using hkey
        by_cases hkeeps : keeps first = true <;> simp [hkeeps, hne, ih, List.lookup_cons]

section Nodes

variable {store : FileStore} {location other : Location} {identity : Identity} {node : Node}
  {now : Time}

theorem content?_eq_none_iff (store : FileStore) (location : Location) :
    store.content? location = none ↔ store.node? location = none := by
  rw [content?, Option.map_eq_none_iff]

theorem content?_of_node? (hnode : store.node? location = some node) :
    store.content? location = some node.content := by
  rw [content?, hnode]
  rfl

@[simp] theorem content_made (store : FileStore) (content : Content) (mode : Nat) (now : Time) :
    (store.made content mode now).content = content :=
  rfl

theorem exists_of_content? {content : Content} (hcontent : store.content? location = some content) :
    ∃ node, store.node? location = some node ∧ node.content = content :=
  Option.map_eq_some_iff.mp hcontent

theorem isShared_iff : store.isShared location other = true ↔ location = other ∨
    ∃ identity, store.identity? location = some identity ∧
      store.identity? other = some identity := by
  rw [isShared, Bool.or_eq_true, beq_iff_eq, Bool.and_eq_true, beq_iff_eq,
    Option.isSome_iff_exists]
  refine or_congr_right ⟨?_, ?_⟩
  · rintro ⟨⟨identity, hhere⟩, hsame⟩
    exact ⟨identity, hhere, hsame ▸ hhere⟩
  · rintro ⟨identity, hhere, hthere⟩
    exact ⟨⟨identity, hhere⟩, hhere.trans hthere.symm⟩

theorem isShared_self (store : FileStore) (location : Location) :
    store.isShared location location = true :=
  isShared_iff.mpr (.inl rfl)

-- Names of one thing show one thing.
theorem node?_of_isShared (hshared : store.isShared location other = true) :
    store.node? other = store.node? location := by
  obtain rfl | ⟨identity, hhere, hthere⟩ := isShared_iff.mp hshared
  · rfl
  · rw [node?, node?, hhere, hthere]

-- Where nothing is, a place has no other name.
theorem eq_of_isShared (hfree : store.identity? location = none)
    (hshared : store.isShared location other = true) : location = other := by
  obtain hsame | ⟨identity, hhere, -⟩ := isShared_iff.mp hshared
  · exact hsame
  · rw [hfree] at hhere
    cases hhere

theorem lt_fresh (hidentity : store.identity? location = some identity) :
    identity < store.fresh := by
  rw [identity?] at hidentity
  rw [fresh]
  generalize store.entries = entries at hidentity
  induction entries with
  | nil => cases hidentity
  | cons entry rest ih =>
      rw [List.foldr_cons]
      rw [List.lookup_cons] at hidentity
      split at hidentity
      · obtain rfl := Option.some.inj hidentity
        exact Nat.lt_of_lt_of_le (Nat.lt_succ_self _) (Nat.le_max_left _ _)
      · exact Nat.lt_of_lt_of_le (ih hidentity) (Nat.le_max_right _ _)

theorem node?_eq_none_iff : store.node? location = none ↔ store.identity? location = none :=
  Option.map_eq_none_iff

theorem inode_alter (store : FileStore) (identity held : Identity) (node : Node) :
    (store.alter identity node).inode held = if held = identity then node else store.inode held := by
  rw [inode, alter, List.lookup_cons]
  by_cases hheld : held = identity
  · simp [hheld]
  · have hne : (held == identity) = false := by simpa using hheld
    rw [if_neg hheld, hne, lookup_filter store.inodes (· != identity)]
    simp [hheld, inode]

theorem node?_alter : (store.alter identity node).node? location =
    if store.identity? location = some identity then some node else store.node? location := by
  have hsame : (store.alter identity node).identity? location = store.identity? location := rfl
  rw [node?, hsame, node?]
  cases store.identity? location with
  | none => simp
  | some held =>
      simp only [Option.map_some, inode_alter, Option.some.injEq]
      split <;> rfl

theorem identity?_name : (store.name location identity).identity? other =
    if other = location then some identity else store.identity? other := by
  rw [identity?, name, List.lookup_cons]
  by_cases hother : other = location
  · simp [hother]
  · have hne : (other == location) = false := by simpa using hother
    rw [if_neg hother, hne, lookup_filter store.entries (· != location)]
    simp [hother, identity?]

theorem identity?_create : (store.create location node).identity? other =
    if other = location then some store.fresh else store.identity? other :=
  identity?_name

-- A thing that is made has one name.
theorem node?_create : (store.create location node).node? other =
    if other = location then some node else store.node? other := by
  have hinode (held : Identity) : (store.create location node).inode held =
      if held = store.fresh then node else store.inode held :=
    inode_alter store store.fresh held node
  rw [node?, identity?_create, node?]
  by_cases hother : other = location
  · simp [hother, hinode]
  · rw [if_neg hother, if_neg hother]
    cases hheld : store.identity? other with
    | none => rfl
    | some held => simp [hinode, Nat.ne_of_lt (lt_fresh hheld)]

theorem node?_put : (store.put location node).node? other =
    if store.isShared location other then some node else store.node? other := by
  rw [put]
  cases hidentity : store.identity? location with
  | none =>
      rw [node?_create]
      refine if_congr ⟨fun hsame => hsame ▸ isShared_self store location, fun hshared => ?_⟩ rfl rfl
      exact (eq_of_isShared hidentity hshared).symm
  | some identity =>
      rw [node?_alter]
      refine if_congr ⟨fun hother => isShared_iff.mpr (.inr ⟨identity, hidentity, hother⟩),
        fun hshared => ?_⟩ rfl rfl
      obtain rfl | ⟨held, hhere, hthere⟩ := isShared_iff.mp hshared
      · exact hidentity
      · rw [hthere, ← hhere, hidentity]

@[simp] theorem user_put : (store.put location node).user = store.user := by
  rw [put]
  split <;> rfl

@[simp] theorem user_stamp : (store.stamp location now).user = store.user := by
  rw [stamp]
  split
  · exact user_put
  · rfl

@[simp] theorem user_add : (store.add location node now).user = store.user :=
  user_stamp

end Nodes

section Content

variable (store : FileStore) (location other : Location) (node : Node) (now : Time)

-- A time that changes is all that a stamp leaves.
@[simp] theorem timeless_stamp : ((store.stamp location now).node? other).map Node.timeless =
    (store.node? other).map Node.timeless := by
  rw [stamp]
  cases hnode : store.node? location with
  | none => rfl
  | some node =>
      rw [node?_put]
      split
      · rename_i hshared
        rw [node?_of_isShared hshared, hnode]
        rfl
      · rfl

theorem timeless_add : ((store.add location node now).node? other).map Node.timeless =
    if other = location then some node.timeless else (store.node? other).map Node.timeless := by
  rw [add, timeless_stamp, node?_create]
  split <;> rfl

theorem content?_eq_timeless : store.content? location =
    ((store.node? location).map Node.timeless).map (·.content) := by
  rw [content?, Option.map_map]
  rfl

@[simp] theorem content?_stamp :
    (store.stamp location now).content? other = store.content? other := by
  rw [content?_eq_timeless, timeless_stamp, ← content?_eq_timeless]

theorem content?_add : (store.add location node now).content? other =
    if other = location then some node.content else store.content? other := by
  rw [content?_eq_timeless, timeless_add, content?_eq_timeless]
  split <;> rfl

theorem content?_removeTree : (store.removeTree location now).content? other =
    if location <+: other then none else store.content? other := by
  rw [removeTree, content?_stamp, content?, node?, identity?,
    lookup_filter store.entries fun place => !location.isPrefixOf place]
  change Option.map _ (Option.map store.inode _) = _
  by_cases hbelow : location <+: other
  · have hprefix : location.isPrefixOf other = true := List.isPrefixOf_iff_prefix.mpr hbelow
    simp [hbelow, hprefix]
  · have hprefix : location.isPrefixOf other = false := by
      rwa [Bool.eq_false_iff, Ne, List.isPrefixOf_iff_prefix]
    simp [hbelow, hprefix, content?, node?, identity?]

end Content

section Obstacle

variable {store files : FileStore} {location other : Location} {piece : String} {node : Node}
  {fault : Fault}

theorem obstacle?_of_timeless (huser : files.user = store.user)
    (hnode : (files.node? location).map Node.timeless = (store.node? location).map Node.timeless) :
    files.obstacle? location piece = store.obstacle? location piece := by
  rw [obstacle?, obstacle?, huser]
  cases hthere : store.node? location with
  | none =>
      rw [hthere] at hnode
      rw [Option.map_eq_none_iff.mp hnode]
  | some node =>
      rw [hthere] at hnode
      obtain ⟨held, hheld, hsame⟩ := Option.map_eq_some_iff.mp hnode
      simp only [hheld]
      rw [← held.obstacle?_timeless, hsame, Node.obstacle?_timeless]

theorem content?_of_obstacle? (hopen : store.obstacle? location piece = none) :
    store.content? location = some .directory := by
  rw [obstacle?] at hopen
  cases hnode : store.node? location with
  | none => simp [hnode] at hopen
  | some node =>
      simp only [hnode] at hopen
      rw [content?_of_node? hnode, Node.content_of_obstacle? hopen]

theorem obstacle?_eq_notFound_iff :
    store.obstacle? location piece = some .notFound ↔ store.content? location = none := by
  rw [content?_eq_none_iff, obstacle?]
  cases store.node? location with
  | none => simp
  | some node => simpa using node.obstacle?_ne_notFound store.user piece

end Obstacle

-- What is in a store hangs together: each place lies in a directory.
def Rooted (store : FileStore) : Prop :=
  ∀ location name, store.content? (location ++ [name]) ≠ none →
    store.content? location = some .directory

namespace Rooted

variable {store : FileStore} {location other : Location}

theorem content?_dropLast (hrooted : store.Rooted) (hhas : store.content? location ≠ none)
    (hne : location ≠ []) : store.content? location.dropLast = some .directory := by
  apply hrooted location.dropLast (location.getLast hne)
  rwa [List.dropLast_concat_getLast]

-- Where there is nothing, nothing lies below.
theorem content?_ne_none_of_prefix (hrooted : store.Rooted) (hbelow : location <+: other)
    (hhas : store.content? other ≠ none) : store.content? location ≠ none := by
  obtain ⟨names, rfl⟩ := hbelow
  induction names using List.reverseRecOn with
  | nil => rwa [List.append_nil] at hhas
  | append_singleton names name ih =>
      rw [← List.append_assoc] at hhas
      have habove := hrooted _ _ hhas
      exact ih (by simp [habove])

theorem add (hrooted : store.Rooted) {parent : Location} {name : String}
    (hparent : store.content? parent = some .directory)
    (hfree : store.content? (parent ++ [name]) = none) (node : Node) (now : Time) :
    (store.add (parent ++ [name]) node now).Rooted := by
  intro location last hhas
  have habove : store.content? location = some .directory := by
    rw [content?_add] at hhas
    split at hhas
    · obtain ⟨rfl, -⟩ := List.append_singleton_inj.mp ‹_›
      exact hparent
    · exact hrooted location last hhas
  rw [content?_add, if_neg, habove]
  rintro rfl
  rw [hfree] at habove
  cases habove

theorem removeTree (hrooted : store.Rooted) (location : Location) (now : Time) :
    (store.removeTree location now).Rooted := by
  intro above name hhas
  rw [content?_removeTree] at hhas ⊢
  split at hhas
  · exact absurd rfl hhas
  · have hnot : ¬location <+: above :=
      fun hbelow => ‹¬_› (hbelow.trans (List.prefix_append above [name]))
    rw [if_neg hnot]
    exact hrooted above name hhas

end Rooted

-- A piece of a path that stands for no place but its own.
def IsName (piece : String) : Prop :=
  ¬(piece = "" ∨ piece = ".") ∧ piece ≠ ".."

-- A walk that arrives, step by step. The number bounds the links that it may still follow.
inductive Leads (store : FileStore) (follows : Bool) :
    Nat → Location → List String → Location → Prop where
  | arrived (links : Nat) (location : Location) : Leads store follows links location [] location
  | stay {links : Nat} {location place : Location} {piece : String} {rest : List String}
      (hopen : store.obstacle? location piece = none) (hidle : piece = "" ∨ piece = ".")
      (hrest : Leads store follows links location rest place) :
      Leads store follows links location (piece :: rest) place
  | up {links : Nat} {location place : Location} {rest : List String}
      (hopen : store.obstacle? location ".." = none)
      (hrest : Leads store follows links location.dropLast rest place) :
      Leads store follows links location (".." :: rest) place
  -- A link at the end stands for itself unless it is to be followed.
  | named {links : Nat} {location : Location} {piece : String} {target : Path}
      (hopen : store.obstacle? location piece = none) (hname : IsName piece)
      (hlink : store.content? (location ++ [piece]) = some (.link target))
      (hend : follows = false) :
      Leads store follows links location [piece] (location ++ [piece])
  | followed {links : Nat} {location place : Location} {piece : String} {rest : List String}
      {target : Path}
      (hopen : store.obstacle? location piece = none) (hname : IsName piece)
      (hlink : store.content? (location ++ [piece]) = some (.link target))
      (hgoes : ¬(rest = [] ∧ follows = false))
      (hrest : Leads store follows links (startOf location target) (target.pieces ++ rest) place) :
      Leads store follows (links + 1) location (piece :: rest) place
  | down {links : Nat} {location place : Location} {piece : String} {rest : List String}
      (hopen : store.obstacle? location piece = none) (hname : IsName piece)
      (hplain : ∀ target, store.content? (location ++ [piece]) ≠ some (.link target))
      (hrest : Leads store follows links (location ++ [piece]) rest place) :
      Leads store follows links location (piece :: rest) place

section Walk

variable {store : FileStore} {follows : Bool} {links : Nat} {location place : Location}
  {pieces : List String}

theorem walk_of_leads (hleads : Leads store follows links location pieces place) :
    store.walk links follows location pieces = .ok place := by
  induction hleads with
  | arrived links location => rw [walk]
  | stay hopen hidle hrest ih => rw [walk, hopen, if_pos hidle, ih]
  | up hopen hrest ih => rw [walk, hopen, if_neg (by decide), if_pos rfl, ih]
  | named hopen hname hlink hend =>
      rw [walk, hopen, if_neg hname.1, if_neg hname.2, hlink, hend]
      rfl
  | @followed links location place piece rest target hopen hname hlink hgoes hrest ih =>
      have hon : ¬(rest.isEmpty && !follows) = true := by simpa using hgoes
      rw [walk, hopen, if_neg hname.1, if_neg hname.2, hlink]
      simp only [if_neg hon, ih]
  | @down links location place piece rest hopen hname hplain hrest ih =>
      rw [walk, hopen, if_neg hname.1, if_neg hname.2]
      cases hnext : store.content? (location ++ [piece]) with
      | none => exact ih
      | some content =>
          cases content with
          | link target => exact absurd hnext (hplain target)
          | _ => exact ih

theorem leads_of_walk (hwalk : store.walk links follows location pieces = .ok place) :
    Leads store follows links location pieces place := by
  induction links, location, pieces using walk.induct store follows with
  | case1 links location =>
      rw [walk] at hwalk
      obtain rfl := Except.ok.inj hwalk
      exact .arrived links location
  | case2 links location piece rest fault hfault =>
      rw [walk, hfault] at hwalk
      cases hwalk
  | case3 links location piece rest hopen hidle ih =>
      rw [walk, hopen, if_pos hidle] at hwalk
      exact .stay hopen hidle (ih hwalk)
  | case4 links location rest hopen hidle ih =>
      rw [walk, hopen, if_neg hidle, if_pos rfl] at hwalk
      exact .up hopen (ih hwalk)
  | case5 links location piece rest hopen hidle hup target hlink hend =>
      rw [walk, hopen, if_neg hidle, if_neg hup, hlink] at hwalk
      simp only [if_pos hend] at hwalk
      obtain rfl := Except.ok.inj hwalk
      obtain ⟨rfl, hfollows⟩ : rest = [] ∧ follows = false := by simpa using hend
      exact .named hopen ⟨hidle, hup⟩ hlink hfollows
  | case6 location piece rest hopen hidle hup target hlink hend =>
      rw [walk, hopen, if_neg hidle, if_neg hup, hlink] at hwalk
      simp only [if_neg hend] at hwalk
      cases hwalk
  | case7 location piece rest hopen hidle hup target hlink hend links ih =>
      rw [walk, hopen, if_neg hidle, if_neg hup, hlink] at hwalk
      simp only [if_neg hend] at hwalk
      exact .followed hopen ⟨hidle, hup⟩ hlink (by simpa using hend) (ih hwalk)
  | case8 links location piece rest hopen hidle hup hplain ih =>
      rw [walk, hopen, if_neg hidle, if_neg hup] at hwalk
      refine .down hopen ⟨hidle, hup⟩ hplain (ih ?_)
      cases hnext : store.content? (location ++ [piece]) with
      | none => simpa only [hnext] using hwalk
      | some content =>
          rw [hnext] at hwalk
          cases content with
          | link target => exact (hplain target hnext).elim
          | _ => exact hwalk

theorem walk_eq_ok_iff : store.walk links follows location pieces = .ok place ↔
    Leads store follows links location pieces place :=
  ⟨leads_of_walk, walk_of_leads⟩

end Walk

-- What can be gone through in one store can be gone through in the other, with the same links.
structure KeepsWays (store files : FileStore) : Prop where
  opens : ∀ location piece, store.obstacle? location piece = none →
    files.obstacle? location piece = none
  link : ∀ location target,
    store.content? location = some (.link target) ↔ files.content? location = some (.link target)

-- Something new that is no link is on no path but its own.
theorem keepsWays_add {store : FileStore} {place : Location} {node : Node}
    (hfree : store.content? place = none) (hnode : ∀ target, node.content ≠ .link target)
    (now : Time) : KeepsWays store (store.add place node now) where
  opens location piece hopen := by
    rw [obstacle?_of_timeless user_add, hopen]
    rw [timeless_add, if_neg]
    rintro rfl
    rw [content?_of_obstacle? hopen] at hfree
    cases hfree
  link location target := by
    rw [content?_add]
    split
    · rename_i hplace
      rw [hplace, hfree]
      exact iff_of_false nofun fun hlink => hnode target (Option.some.inj hlink)
    · rfl

section Free

-- A place where something is, or where something can be put.
def Reaches (store : FileStore) (location : Location) : Prop :=
  store.content? location ≠ none ∨
    ∃ parent name, location = parent ++ [name] ∧ store.content? parent = some .directory

namespace Leads

variable {store : FileStore} {follows : Bool} {links : Nat} {location place : Location}
  {pieces : List String}

theorem content?_start (hleads : Leads store follows links location pieces place)
    (hpieces : pieces ≠ []) : store.content? location = some .directory := by
  cases hleads with
  | arrived => exact absurd rfl hpieces
  | stay hopen | up hopen | named hopen | followed hopen | down hopen =>
      exact content?_of_obstacle? hopen

theorem reaches (hleads : Leads store follows links location pieces place)
    (hrooted : store.Rooted) (hstart : store.Reaches location) : store.Reaches place := by
  induction hleads with
  | arrived => exact hstart
  | stay _ _ _ ih => exact ih hstart
  | @up links location place rest hopen _ ih =>
      have hhas : store.content? location ≠ none := by simp [content?_of_obstacle? hopen]
      apply ih
      by_cases hroot : location = []
      · rw [hroot] at hhas ⊢
        exact .inl hhas
      · exact .inl (by simp [hrooted.content?_dropLast hhas hroot])
  | named _ _ hlink => exact .inl (by simp [hlink])
  | followed hopen _ _ _ _ ih =>
      have hhas : store.content? _ ≠ none :=
        Option.ne_none_iff_exists'.mpr ⟨_, content?_of_obstacle? hopen⟩
      apply ih
      rw [startOf]
      split
      · exact .inl (hrooted.content?_ne_none_of_prefix List.nil_prefix hhas)
      · exact hstart
  | @down links location place piece rest hopen _ _ _ ih =>
      exact ih (.inr ⟨location, piece, rfl, content?_of_obstacle? hopen⟩)

-- A walk that is open stays open. Where its end is no link, it does not matter whether one would be
-- followed there.
theorem of_keepsWays {files : FileStore} {other : Bool}
    (hleads : Leads store follows links location pieces place) (hkeeps : KeepsWays store files)
    (hend : follows = other ∨ other = true ∧ ∀ target, store.content? place ≠ some (.link target)) :
    Leads files other links location pieces place := by
  induction hleads with
  | arrived => exact .arrived _ _
  | stay hopen hidle _ ih => exact .stay (hkeeps.opens _ _ hopen) hidle (ih hend)
  | up hopen _ ih => exact .up (hkeeps.opens _ _ hopen) (ih hend)
  | named hopen hname hlink hstop =>
      refine .named (hkeeps.opens _ _ hopen) hname ((hkeeps.link _ _).mp hlink) ?_
      rcases hend with rfl | ⟨-, hplain⟩
      · exact hstop
      · exact absurd hlink (hplain _)
  | followed hopen hname hlink hgoes _ ih =>
      refine .followed (hkeeps.opens _ _ hopen) hname ((hkeeps.link _ _).mp hlink) ?_ (ih hend)
      rcases hend with rfl | ⟨rfl, -⟩
      · exact hgoes
      · simp
  | down hopen hname hplain _ ih =>
      exact .down (hkeeps.opens _ _ hopen) hname
        (fun target hlink => hplain target ((hkeeps.link _ _).mpr hlink)) (ih hend)

end Leads

end Free

section Paths

variable {store : FileStore} {directory place : Location} {path : Path}

theorem resolve_eq_ok_iff : store.resolve directory path = .ok place ↔
    pathFault? path = none ∧
      Leads store true maxLinks (startOf directory path) path.pieces place := by
  rw [resolve]
  split
  · simp [*]
  · simp [*, walk_eq_ok_iff]

theorem resolveName_eq_ok_iff : store.resolveName directory path = .ok place ↔
    pathFault? path = none ∧
      Leads store false maxLinks (startOf directory path) path.pieces place := by
  rw [resolveName]
  split
  · simp [*]
  · simp [*, walk_eq_ok_iff]

-- A path that is nothing but a name.
structure IsOneName (name : String) : Prop where
  sound : pathFault? ⟨name⟩ = none
  pieces : Path.pieces ⟨name⟩ = [name]
  name : IsName name

theorem resolve_of_isOneName {name : String} (hname : IsOneName name)
    (hroot : store.obstacle? [] name = none)
    (hplain : ∀ target, store.content? [name] ≠ some (.link target)) :
    store.resolve [] ⟨name⟩ = .ok [name] := by
  refine resolve_eq_ok_iff.mpr ⟨hname.sound, ?_⟩
  have hstart : startOf [] ⟨name⟩ = [] := ite_self []
  rw [hname.pieces, hstart]
  exact .down hroot hname.name hplain (.arrived _ _)

theorem has_eq_false (hresolve : store.resolve directory path = .ok place)
    (hfree : store.content? place = none) : store.has directory path = false := by
  have hnode := (content?_eq_none_iff store place).mp hfree
  simp [has, find, nodeAt, hresolve, hnode, bind, Except.bind, Except.toOption]

theorem hasName_eq_false (hresolve : store.resolveName directory path = .ok place)
    (hfree : store.content? place = none) : store.hasName directory path = false := by
  have hnode := (content?_eq_none_iff store place).mp hfree
  simp [hasName, findName, nodeAt, hresolve, hnode, bind, Except.bind, Except.toOption]

-- A path to where nothing is leads past a directory.
theorem exists_parent_of_resolveName (hrooted : store.Rooted)
    (hresolve : store.resolveName directory path = .ok place)
    (hfree : store.content? place = none) :
    ∃ parent name, place = parent ++ [name] ∧ store.content? parent = some .directory := by
  obtain ⟨-, hleads⟩ := resolveName_eq_ok_iff.mp hresolve
  have hstart := hleads.content?_start path.pieces_ne_nil
  exact (hleads.reaches hrooted (.inl (by simp [hstart]))).resolve_left (absurd hfree)

end Paths

section Making

variable {store files : FileStore} {directory : Location} {path : Path} {mode : Nat} {now : Time}

theorem makeDirectory_of_free {place : Location}
    (hresolve : store.resolveName directory path = .ok place)
    (hfree : store.content? place = none) (hentry : store.entryFault? place = none) :
    store.makeDirectory directory path mode now =
      .ok (store.add place (store.made .directory mode now) now) := by
  have hnode := (content?_eq_none_iff store place).mp hfree
  simp [makeDirectory, hresolve, hnode, hentry, bind, Except.bind]

-- The directory that is made stands where there was nothing, and its path leads to it.
theorem makeDirectory_eq_ok (hmake : store.makeDirectory directory path mode now = .ok files) :
    ∃ place, store.content? place = none ∧
      files = store.add place (store.made .directory mode now) now ∧
      store.resolveName directory path = .ok place ∧ files.resolve directory path = .ok place := by
  obtain ⟨place, hresolve, hmake⟩ := exists_of_bind hmake
  split at hmake
  · cases hmake
  · rename_i hthere
    split at hmake
    · cases hmake
    · obtain rfl := Except.ok.inj hmake
      have hfree : store.content? place = none := by
        rw [content?_eq_none_iff]
        simpa using hthere
      obtain ⟨hfault, hleads⟩ := resolveName_eq_ok_iff.mp hresolve
      exact ⟨place, hfree, rfl, hresolve,
        resolve_eq_ok_iff.mpr ⟨hfault, hleads.of_keepsWays (keepsWays_add hfree (by simp) now)
          (.inr ⟨rfl, by simp [hfree]⟩)⟩⟩

end Making

section Missing

-- A walk that comes to a place where nothing is, step by step. It may be the end of the path, and a
-- link on the way or at the end is followed.
inductive Misses (store : FileStore) : Nat → Location → List String → Prop where
  | gone {links : Nat} {location : Location} {pieces : List String}
      (hfree : store.content? location = none) : Misses store links location pieces
  | stay {links : Nat} {location : Location} {piece : String} {rest : List String}
      (hopen : store.obstacle? location piece = none) (hidle : piece = "" ∨ piece = ".")
      (hrest : Misses store links location rest) : Misses store links location (piece :: rest)
  | up {links : Nat} {location : Location} {rest : List String}
      (hopen : store.obstacle? location ".." = none)
      (hrest : Misses store links location.dropLast rest) :
      Misses store links location (".." :: rest)
  | followed {links : Nat} {location : Location} {piece : String} {rest : List String}
      {target : Path}
      (hopen : store.obstacle? location piece = none) (hname : IsName piece)
      (hlink : store.content? (location ++ [piece]) = some (.link target))
      (hrest : Misses store links (startOf location target) (target.pieces ++ rest)) :
      Misses store (links + 1) location (piece :: rest)
  | down {links : Nat} {location : Location} {piece : String} {rest : List String}
      (hopen : store.obstacle? location piece = none) (hname : IsName piece)
      (hplain : ∀ target, store.content? (location ++ [piece]) ≠ some (.link target))
      (hrest : Misses store links (location ++ [piece]) rest) :
      Misses store links location (piece :: rest)

-- A path that names nothing at all, or that leads to where nothing is.
def Missing (store : FileStore) (directory : Location) (path : Path) : Prop :=
  path.text = "" ∨
    pathFault? path = none ∧ Misses store maxLinks (startOf directory path) path.pieces

variable {store : FileStore} {links : Nat} {directory location : Location} {path : Path}
  {pieces : List String}

theorem nodeAt_eq_error_iff :
    store.nodeAt location = .error .notFound ↔ store.content? location = none := by
  rw [content?_eq_none_iff, nodeAt]
  cases store.node? location <;> simp

-- The node at the end of a walk.
def arrive (store : FileStore) (links : Nat) (location : Location) (pieces : List String) :
    Except Fault (Location × Node) :=
  store.walk links true location pieces >>= store.nodeAt

theorem arrive_of_misses (hmisses : Misses store links location pieces) :
    store.arrive links location pieces = .error .notFound := by
  rw [arrive]
  induction hmisses with
  | @gone links location pieces hfree =>
      cases pieces with
      | nil =>
          rw [walk]
          exact nodeAt_eq_error_iff.mpr hfree
      | cons piece rest =>
          rw [walk, obstacle?_eq_notFound_iff.mpr hfree]
          rfl
  | stay hopen hidle hrest ih => rw [walk, hopen, if_pos hidle, ih]
  | up hopen hrest ih => rw [walk, hopen, if_neg (by decide), if_pos rfl, ih]
  | @followed links location piece rest target hopen hname hlink hrest ih =>
      rw [walk, hopen, if_neg hname.1, if_neg hname.2, hlink]
      simpa using ih
  | @down links location piece rest hopen hname hplain hrest ih =>
      rw [walk, hopen, if_neg hname.1, if_neg hname.2]
      cases hnext : store.content? (location ++ [piece]) with
      | none => exact ih
      | some content =>
          cases content with
          | link target => exact absurd hnext (hplain target)
          | _ => exact ih

theorem misses_of_arrive (harrive : store.arrive links location pieces = .error .notFound) :
    Misses store links location pieces := by
  rw [arrive] at harrive
  induction links, location, pieces using walk.induct store true with
  | case1 links location =>
      rw [walk] at harrive
      exact .gone (nodeAt_eq_error_iff.mp harrive)
  | case2 links location piece rest fault hfault =>
      rw [walk, hfault] at harrive
      obtain rfl := Except.error.inj harrive
      exact .gone (obstacle?_eq_notFound_iff.mp hfault)
  | case3 links location piece rest hopen hidle ih =>
      rw [walk, hopen, if_pos hidle] at harrive
      exact .stay hopen hidle (ih harrive)
  | case4 links location rest hopen hidle ih =>
      rw [walk, hopen, if_neg hidle, if_pos rfl] at harrive
      exact .up hopen (ih harrive)
  | case5 links location piece rest hopen hidle hup target hlink hend => simp at hend
  | case6 location piece rest hopen hidle hup target hlink hend =>
      rw [walk, hopen, if_neg hidle, if_neg hup, hlink] at harrive
      simp only [if_neg hend] at harrive
      cases harrive
  | case7 location piece rest hopen hidle hup target hlink hend links ih =>
      rw [walk, hopen, if_neg hidle, if_neg hup, hlink] at harrive
      simp only [if_neg hend] at harrive
      exact .followed hopen ⟨hidle, hup⟩ hlink (ih harrive)
  | case8 links location piece rest hopen hidle hup hplain ih =>
      rw [walk, hopen, if_neg hidle, if_neg hup] at harrive
      refine .down hopen ⟨hidle, hup⟩ hplain (ih ?_)
      cases hnext : store.content? (location ++ [piece]) with
      | none => simpa only [hnext] using harrive
      | some content =>
          rw [hnext] at harrive
          cases content with
          | link target => exact (hplain target hnext).elim
          | _ => exact harrive

theorem pathFault?_eq_notFound_iff : pathFault? path = some .notFound ↔ path.text = "" := by
  rw [pathFault?]
  split
  · rename_i hnul
    have hne : path.text ≠ "" := by
      intro hempty
      rw [hempty] at hnul
      simp at hnul
    simp [hne]
  · split
    · simp [*]
    · split <;> simp [*]

-- Nothing is found exactly where the path leads to nothing. Any other obstacle has a fault of its
-- own.
theorem find_eq_notFound_iff :
    store.find directory path = .error .notFound ↔ store.Missing directory path := by
  rw [find, resolve, Missing, ← pathFault?_eq_notFound_iff]
  cases hfault : pathFault? path with
  | some fault => simp [bind, Except.bind]
  | none => simpa using ⟨misses_of_arrive, arrive_of_misses⟩

theorem bytesOf_ne_notFound (content : Content) : bytesOf content ≠ .error .notFound := by
  cases content with
  | directory | file | program | link => simp [bytesOf]
  | queue incoming => cases incoming <;> simp [bytesOf]
  | device device => cases device <;> simp [bytesOf]

theorem read_eq_notFound_iff :
    store.read directory path = .error .notFound ↔ store.Missing directory path := by
  rw [← find_eq_notFound_iff, read, openOld]
  cases hfind : store.find directory path with
  | error fault => simp [bind, Except.bind]
  | ok found =>
      obtain ⟨place, node⟩ := found
      have hnever := node.refusal?_ne_notFound store.user .read
      simp only [bind, Except.bind, reduceCtorEq, iff_false]
      cases hrefusal : node.refusal? store.user .read with
      | some fault => simpa [hrefusal] using hnever
      | none => exact bytesOf_ne_notFound node.content

end Missing

end FileStore

end MakeCheck
