import MakeCheck.Proofs.FileStore

namespace MakeCheck.FileStore

theorem resolve_iff_of_keepsWays {store files : FileStore} {directory place : Location} {path : Path}
    (hkeeps : KeepsWays store files) (hback : KeepsWays files store) :
    store.resolve directory path = .ok place ↔ files.resolve directory path = .ok place := by
  rw [resolve_eq_ok_iff, resolve_eq_ok_iff]
  exact and_congr_right fun _ =>
    ⟨fun hleads => hleads.of_keepsWays hkeeps (.inl rfl),
      fun hleads => hleads.of_keepsWays hback (.inl rfl)⟩

section Reading

variable {store : FileStore} {directory place : Location} {path : Path} {content : Content}
  {node : Node} {bytes : List UInt8}

theorem find_of_resolve (hresolve : store.resolve directory path = .ok place)
    (hnode : store.node? place = some node) :
    store.find directory path = .ok (place, node) := by
  simp [find, hresolve, nodeAt, hnode, bind, Except.bind]

theorem find_eq_ok (hfind : store.find directory path = .ok (place, node)) :
    store.resolve directory path = .ok place ∧ store.node? place = some node := by
  obtain ⟨there, hresolve, hnode⟩ := exists_of_bind hfind
  rw [nodeAt] at hnode
  split at hnode
  · rename_i found hfound
    obtain ⟨rfl, rfl⟩ := Prod.mk.inj (Except.ok.inj hnode)
    exact ⟨hresolve, hfound⟩
  · cases hnode

theorem refusal?_eq_none_iff {user : User} {right : Right} : node.refusal? user right = none ↔
    node.allows user right = true ∧ node.failing = none := by
  rw [Node.refusal?]
  cases node.allows user right <;> simp

theorem openOld_eq_ok_iff : store.openOld directory path = .ok (place, node) ↔
    store.resolve directory path = .ok place ∧ store.node? place = some node ∧
      node.refusal? store.user .read = none := by
  rw [openOld]
  constructor
  · intro hopen
    obtain ⟨⟨there, found⟩, hfind, hopen⟩ := exists_of_bind hopen
    simp only at hopen
    split at hopen
    · cases hopen
    · rename_i hrefusal
      obtain ⟨rfl, rfl⟩ := Prod.mk.inj (Except.ok.inj hopen)
      obtain ⟨hresolve, hnode⟩ := find_eq_ok hfind
      exact ⟨hresolve, hnode, hrefusal⟩
  · rintro ⟨hresolve, hnode, hrefusal⟩
    simp [find_of_resolve hresolve hnode, hrefusal, bind, Except.bind]

-- What is read lies at the end of the path, the user may have it, and the system gets at it.
theorem read_eq_ok_iff : store.read directory path = .ok bytes ↔
    ∃ place node, store.resolve directory path = .ok place ∧ store.node? place = some node ∧
      node.allows store.user .read = true ∧ node.failing = none ∧
      bytesOf node.content = .ok bytes := by
  constructor
  · intro hread
    obtain ⟨⟨place, node⟩, hopen, hbytes⟩ := exists_of_bind hread
    obtain ⟨hresolve, hnode, hrefusal⟩ := openOld_eq_ok_iff.mp hopen
    obtain ⟨hallows, hsound⟩ := refusal?_eq_none_iff.mp hrefusal
    exact ⟨place, node, hresolve, hnode, hallows, hsound, hbytes⟩
  · rintro ⟨place, node, hresolve, hnode, hallows, hsound, hbytes⟩
    have hopen := openOld_eq_ok_iff.mpr
      ⟨hresolve, hnode, refusal?_eq_none_iff.mpr ⟨hallows, hsound⟩⟩
    rw [read, hopen]
    exact hbytes

-- A path leads to something with these bytes, whoever may read them.
def Holds (store : FileStore) (directory : Location) (path : Path) (bytes : List UInt8) : Prop :=
  ∃ place content, store.resolve directory path = .ok place ∧
    store.content? place = some content ∧ bytesOf content = .ok bytes

theorem Holds.unique {held : List UInt8} (hbytes : store.Holds directory path bytes)
    (hheld : store.Holds directory path held) : bytes = held := by
  obtain ⟨place, content, hplace, hcontent, hbytes⟩ := hbytes
  obtain ⟨there, found, hthere, hfound, hheld⟩ := hheld
  obtain rfl := Except.ok.inj (hplace.symm.trans hthere)
  obtain rfl := Option.some.inj (hcontent.symm.trans hfound)
  exact Except.ok.inj (hbytes.symm.trans hheld)

end Reading

section Writing

variable {store files : FileStore} {directory place other : Location} {path : Path}
  {bytes : List UInt8} {now : Time}

-- A place where bytes stay when they are written: a regular file, or nothing yet.
def CanHold (store : FileStore) (place : Location) : Prop :=
  store.content? place = none ∨
    ∃ content, store.content? place = some content ∧ content.isFile = true

theorem canHold_iff_of_node? {node : Node} (hnode : store.node? place = some node) :
    store.CanHold place ↔ node.content.isFile = true := by
  simp [CanHold, content?_of_node? hnode]

-- The same holds of all names of the place.
theorem CanHold.isFile {content : Content} (hhold : store.CanHold place)
    (hshared : store.isShared place other = true) (hcontent : store.content? other = some content) :
    content.isFile = true := by
  rw [content?, node?_of_isShared hshared, ← content?] at hcontent
  rcases hhold with hnone | ⟨held, hheld, hfile⟩
  · rw [hnone] at hcontent
    cases hcontent
  · rwa [← Option.some.inj (hheld.symm.trans hcontent)]

-- A place that lets bytes through and keeps none.
def LetsThrough (store : FileStore) (place : Location) : Prop :=
  (∃ incoming, store.content? place = some (.queue incoming)) ∨
    ∃ device, store.content? place = some (.device device)

-- Whether a path can name a new file at all is told by the path alone.
theorem resolveNew_cases (directory : Location) (path : Path) :
    (∀ store : FileStore, store.resolveNew directory path = store.resolve directory path) ∨
      ∀ (store : FileStore) place, store.resolveNew directory path ≠ .ok place := by
  cases hpieces : path.pieces.reverse with
  | nil => exact .inl fun store => by simp only [resolveNew, hpieces]
  | cons last before =>
      by_cases hlast : last = ""
      · subst hlast
        cases hname : before.dropWhile (· == "") with
        | nil => exact .inl fun store => by simp only [resolveNew, hpieces, hname]
        | cons name above =>
            cases hfault : pathFault? path with
            | some fault =>
                exact .inl fun store => by simp only [resolveNew, hpieces, hname, hfault]
            | none =>
                by_cases hdots : name = "." ∨ name = ".."
                · exact .inl fun store => by
                    simp only [resolveNew, hpieces, hname, hfault, if_pos hdots]
                · refine .inr fun store place hnew => ?_
                  simp only [resolveNew, hpieces, hname, hfault, if_neg hdots] at hnew
                  split at hnew <;> cases hnew
      · exact .inl fun store => by simp [resolveNew, hpieces, hlast]

theorem resolve_of_resolveNew (hnew : store.resolveNew directory path = .ok place) :
    store.resolve directory path = .ok place := by
  rcases resolveNew_cases directory path with hsame | hnever
  · rwa [← hsame]
  · exact absurd hnew (hnever store place)

-- One file holds these bytes now, under all its names, and everything else is as it was but for
-- times.
structure Sets (store files : FileStore) (place : Location) (bytes : List UInt8) : Prop where
  user : files.user = store.user
  shared : ∀ other, files.isShared place other = store.isShared place other
  inside : ∀ other, store.isShared place other = true →
    files.content? other = some (.file bytes)
  outside : ∀ other, store.isShared place other = false →
    (files.node? other).map Node.timeless = (store.node? other).map Node.timeless

namespace Sets

variable {held : List UInt8}

theorem trans {opened : FileStore} (hfirst : Sets store opened place held)
    (hsecond : Sets opened files place bytes) : Sets store files place bytes where
  user := hsecond.user.trans hfirst.user
  shared other := (hsecond.shared other).trans (hfirst.shared other)
  inside other hshared := hsecond.inside other ((hfirst.shared other).trans hshared)
  outside other hshared :=
    (hsecond.outside other ((hfirst.shared other).trans hshared)).trans
      (hfirst.outside other hshared)

theorem content?_place (hsets : Sets store files place bytes) :
    files.content? place = some (.file bytes) :=
  hsets.inside place (isShared_self store place)

theorem content?_outside (hsets : Sets store files place bytes)
    (hother : store.isShared place other = false) :
    files.content? other = store.content? other := by
  rw [content?_eq_timeless, hsets.outside other hother, ← content?_eq_timeless]

-- A file that comes or changes is on no path but its own.
theorem opens_iff (hsets : Sets store files place bytes) (hhold : store.CanHold place)
    (there : Location) (piece : String) :
    store.obstacle? there piece = none ↔ files.obstacle? there piece = none := by
  cases hshared : store.isShared place there with
  | false => rw [obstacle?_of_timeless hsets.user (hsets.outside there hshared)]
  | true =>
      refine iff_of_false (fun hopen => ?_) fun hopen => ?_
      · exact absurd (hhold.isFile hshared (content?_of_obstacle? hopen)) (by decide)
      · have hdirectory := content?_of_obstacle? hopen
        rw [hsets.inside there hshared] at hdirectory
        cases hdirectory

theorem link_iff (hsets : Sets store files place bytes) (hhold : store.CanHold place)
    (there : Location) (target : Path) :
    store.content? there = some (.link target) ↔ files.content? there = some (.link target) := by
  cases hshared : store.isShared place there with
  | false => rw [hsets.content?_outside hshared]
  | true =>
      rw [hsets.inside there hshared]
      refine iff_of_false (fun hlink => ?_) (by simp)
      cases hhold.isFile hshared hlink

theorem resolve_iff (hsets : Sets store files place bytes) (hhold : store.CanHold place)
    {there : Location} :
    store.resolve directory path = .ok there ↔ files.resolve directory path = .ok there :=
  resolve_iff_of_keepsWays
    ⟨fun there piece => (hsets.opens_iff hhold there piece).mp, hsets.link_iff hhold⟩
    ⟨fun there piece => (hsets.opens_iff hhold there piece).mpr,
      fun there target => (hsets.link_iff hhold there target).symm⟩

theorem holds (hsets : Sets store files place bytes) (hhold : store.CanHold place)
    {there : Location} (hresolve : store.resolve directory path = .ok there)
    (hshared : store.isShared place there = true) : files.Holds directory path bytes :=
  ⟨there, .file bytes, (hsets.resolve_iff hhold).mp hresolve,
    hsets.inside there hshared, rfl⟩

theorem holds_iff (hsets : Sets store files place bytes) (hhold : store.CanHold place)
    (hother : ∀ there, store.resolve directory path = .ok there →
      store.isShared place there = false) :
    files.Holds directory path held ↔ store.Holds directory path held := by
  refine exists_congr fun there => exists_congr fun content => ?_
  rw [← hsets.resolve_iff hhold]
  refine and_congr_right fun hresolve => ?_
  rw [hsets.content?_outside (hother there hresolve)]

end Sets

theorem identity?_put {node : Node} {there : Location} (hplace : store.node? place ≠ none) :
    (store.put place node).identity? there = store.identity? there := by
  obtain ⟨identity, hidentity⟩ :=
    Option.ne_none_iff_exists'.mp (mt node?_eq_none_iff.mpr hplace)
  rw [put, hidentity]
  rfl

-- What a place holds changes under all its names.
theorem sets_put {node : Node} (hplace : store.node? place ≠ none)
    (hnode : node.content = .file bytes) : Sets store (store.put place node) place bytes where
  user := user_put
  shared other := by rw [isShared, isShared, identity?_put hplace, identity?_put hplace]
  inside other hshared := by
    rw [content?, node?_put, if_pos hshared, ← hnode]
    rfl
  outside other hshared := by rw [node?_put, if_neg (by simp [hshared])]

theorem identity?_add {node : Node} : (store.add place node now).identity? other =
    if other = place then some store.fresh else store.identity? other := by
  rw [add, stamp, ← identity?_create]
  split
  · exact identity?_put (by simp [*])
  · rfl

-- What comes where nothing was has one name.
theorem sets_add {node : Node} (hfree : store.node? place = none)
    (hnode : node.content = .file bytes) : Sets store (store.add place node now) place bytes where
  user := user_add
  shared other := by
    rw [Bool.eq_iff_iff, isShared_iff, isShared_iff]
    refine or_congr_right' fun hother => iff_of_false ?_ ?_
    · rintro ⟨identity, hhere, hthere⟩
      rw [identity?_add, if_pos rfl] at hhere
      rw [identity?_add, if_neg (Ne.symm hother), ← hhere] at hthere
      exact Nat.lt_irrefl _ (lt_fresh hthere)
    · rintro ⟨identity, hhere, -⟩
      rw [node?_eq_none_iff.mp hfree] at hhere
      cases hhere
  inside other hshared := by
    rw [content?_add, if_pos (eq_of_isShared (node?_eq_none_iff.mp hfree) hshared).symm, hnode]
  outside other hshared := by
    rw [timeless_add, if_neg]
    rintro rfl
    simp [isShared_self] at hshared

-- A place that is open for writing holds nothing yet, or never holds anything.
theorem openNew_eq_ok {mode : Nat} (hopen : store.openNew place mode now = .ok files) :
    (store.CanHold place ∧ Sets store files place []) ∨
      (∃ node, store.node? place = some node ∧ node.content.isFile = false ∧
        node.content ≠ .directory) ∧ files = store := by
  rw [openNew] at hopen
  split at hopen
  · rename_i hfree
    split at hopen
    · cases hopen
    · obtain rfl := Except.ok.inj hopen
      exact .inl ⟨.inl ((content?_eq_none_iff store place).mpr hfree), sets_add hfree rfl⟩
  · rename_i node hnode
    split at hopen
    · cases hopen
    · rename_i hplain
      split at hopen
      · cases hopen
      · split at hopen
        · rename_i hfile
          obtain rfl := Except.ok.inj hopen
          exact .inl ⟨.inr ⟨_, content?_of_node? hnode, hfile⟩, sets_put (by simp [hnode]) rfl⟩
        · rename_i hfile
          obtain rfl := Except.ok.inj hopen
          exact .inr ⟨⟨node, hnode, by simpa using hfile, hplain⟩, rfl⟩

theorem yield_of_file {mode : Nat} (hheld : store.content? place = some (.file bytes))
    (hyield : store.yield place mode = .ok files) : Sets store files place bytes := by
  obtain ⟨node, hnode, hcontent⟩ := exists_of_content? hheld
  simp only [yield, hnode, hcontent, Content.isFile, Bool.not_true, Bool.false_eq_true,
    if_false] at hyield
  split at hyield
  · obtain rfl := Except.ok.inj hyield
    exact sets_put (by simp [hnode]) rfl
  · cases hyield

theorem pour_of_file {old : List UInt8} (hheld : store.content? place = some (.file old))
    (hpour : store.pour place bytes now = .ok files) : Sets store files place bytes := by
  obtain ⟨node, hnode, hcontent⟩ := exists_of_content? hheld
  simp only [pour, hnode, hcontent, Content.isFile, if_true] at hpour
  obtain rfl := Except.ok.inj hpour
  exact sets_put (by simp [hnode]) rfl

section Through

variable {node : Node} (hnode : store.node? place = some node) (hfile : node.content.isFile = false)

include hnode hfile

theorem yield_of_not_file {mode : Nat} (hyield : store.yield place mode = .ok files) :
    files = store := by
  simp only [yield, hnode, hfile, Bool.not_false, if_true] at hyield
  exact (Except.ok.inj hyield).symm

theorem pour_of_not_file (hpour : store.pour place bytes now = .ok files) : files = store := by
  simp only [pour, hnode, hfile, Bool.false_eq_true, if_false] at hpour
  split at hpour
  · cases hpour
  · exact (Except.ok.inj hpour).symm

end Through

-- A walk that follows all links ends at none.
theorem Leads.content?_ne_link {links : Nat} {location : Location} {pieces : List String}
    (hleads : Leads store true links location pieces place) (hrooted : store.Rooted)
    (hstart : pieces ≠ [] ∨ ∀ target, store.content? location ≠ some (.link target))
    (target : Path) : store.content? place ≠ some (.link target) := by
  induction hleads with
  | arrived => exact (hstart.resolve_left (absurd rfl)) target
  | stay hopen _ _ ih => exact ih (.inr (by simp [content?_of_obstacle? hopen]))
  | @up links location place rest hopen _ ih =>
      have hdirectory := content?_of_obstacle? hopen
      have habove : store.content? location.dropLast = some .directory := by
        by_cases hroot : location = []
        · rwa [hroot] at hdirectory ⊢
        · exact hrooted.content?_dropLast (by simp [hdirectory]) hroot
      exact ih (.inr (by simp [habove]))
  | named _ _ _ hend => cases hend
  | @followed links location place piece rest link _ _ _ _ _ ih =>
      exact ih (.inl (List.append_ne_nil_of_left_ne_nil link.pieces_ne_nil rest))
  | down _ _ hplain _ ih => exact ih (.inr hplain)

theorem letsThrough_of_resolve {node : Node} (hrooted : store.Rooted)
    (hresolve : store.resolve directory path = .ok place) (hnode : store.node? place = some node)
    (hfile : node.content.isFile = false) (hplain : node.content ≠ .directory) :
    store.LetsThrough place := by
  obtain ⟨-, hleads⟩ := resolve_eq_ok_iff.mp hresolve
  have hlink := hleads.content?_ne_link hrooted (.inl path.pieces_ne_nil)
  have hcontent := content?_of_node? hnode
  cases hkind : node.content with
  | file | program => simp [hkind, Content.isFile] at hfile
  | queue incoming => exact .inl ⟨incoming, hkind ▸ hcontent⟩
  | device device => exact .inr ⟨device, hkind ▸ hcontent⟩
  | link target => exact absurd (hkind ▸ hcontent) (hlink target)
  | directory => exact absurd hkind hplain

end Writing

section Copying

variable {store files : FileStore} {directory home place : Location} {source target : Path}
  {node : Node} {now : Time}

theorem bytesOf_of_isFile {content : Content} (hfile : content.isFile = true) :
    ∃ bytes, bytesOf content = .ok bytes := by
  cases content with
  | file bytes => exact ⟨bytes, rfl⟩
  | program => exact ⟨machineCode, rfl⟩
  | directory | link | queue | device => cases hfile

theorem openBoth_eq_ok {opened : FileStore}
    (hopen : store.openBoth directory source target now = .ok (home, place, node, opened)) :
    store.openOld directory source = .ok (home, node) ∧ node.content.isFile = true ∧
      store.resolveNew directory target = .ok place ∧
      store.openNew place (Mode.without standardMask node.mode) now = .ok opened := by
  obtain ⟨⟨there, found⟩, hold, hopen⟩ := exists_of_bind hopen
  simp only at hopen
  split at hopen
  · cases hopen
  · rename_i hfile
    obtain ⟨other, hnew, hopen⟩ := exists_of_bind hopen
    obtain ⟨made, hmade, hopen⟩ := exists_of_bind hopen
    obtain ⟨rfl, rfl, rfl, rfl⟩ := by simpa using hopen
    exact ⟨hold, by simpa using hfile, hnew, hmade⟩

theorem transfer_eq_ok {opened : FileStore}
    (htransfer : opened.transfer home place node now = (files, .ok ())) :
    ∃ ready content bytes, opened.yield place node.mode = .ok ready ∧
      ready.content? home = some content ∧ bytesOf content = .ok bytes ∧
      ready.pour place bytes now = .ok files := by
  rw [transfer] at htransfer
  split at htransfer
  · cases htransfer
  · rename_i ready hready
    split at htransfer
    · cases htransfer
    · rename_i content hcontent
      split at htransfer
      · cases htransfer
      · rename_i written hwritten
        obtain ⟨bytes, hbytes, hpour⟩ := exists_of_bind hwritten
        obtain rfl := (Prod.mk.inj htransfer).1
        exact ⟨ready, content, bytes, hready, hcontent, hbytes, hpour⟩

-- The target is emptied before the source is read. So what arrives is what the source held, unless
-- both are names of one file: then nothing is left to be read.
theorem copy_eq_ok (hcopy : store.copy directory source target now = (files, .ok ())) :
    ∃ home place bytes, store.resolve directory source = .ok home ∧
      store.resolve directory target = .ok place ∧ store.Holds directory source bytes ∧
      (store.CanHold place →
        Sets store files place (if store.isShared place home then [] else bytes)) ∧
      (¬store.CanHold place → (∃ there, store.node? place = some there ∧
        there.content.isFile = false ∧ there.content ≠ .directory) ∧ files = store) := by
  rw [copy] at hcopy
  split at hcopy
  · cases hcopy
  · rename_i home place node opened hboth
    obtain ⟨hold, hfile, hnew, hopen⟩ := openBoth_eq_ok hboth
    obtain ⟨bytes, hbytes⟩ := bytesOf_of_isFile hfile
    obtain ⟨ready, content, poured, hyield, hcontent, hpoured, hpour⟩ := transfer_eq_ok hcopy
    obtain ⟨hsource, hnode, -⟩ := openOld_eq_ok_iff.mp hold
    have hheld : store.Holds directory source bytes :=
      ⟨home, node.content, hsource, content?_of_node? hnode, hbytes⟩
    refine ⟨home, place, bytes, hsource, resolve_of_resolveNew hnew, hheld, ?_⟩
    obtain ⟨hhold, hopened⟩ | ⟨⟨there, hthere, hnone, hplain⟩, rfl⟩ := openNew_eq_ok hopen
    · have hready := hopened.trans (yield_of_file hopened.content?_place hyield)
      have hwritten := hready.trans (pour_of_file hready.content?_place hpour)
      refine ⟨fun _ => ?_, absurd hhold⟩
      suffices hsame : poured = if store.isShared place home then [] else bytes by
        rwa [← hsame]
      cases hshared : store.isShared place home with
      | true =>
          rw [hready.inside home hshared] at hcontent
          obtain rfl := Option.some.inj hcontent
          exact (Except.ok.inj hpoured).symm
      | false =>
          rw [hready.content?_outside hshared, content?_of_node? hnode] at hcontent
          obtain rfl := Option.some.inj hcontent
          exact Except.ok.inj (hpoured.symm.trans hbytes)
    · obtain rfl := yield_of_not_file hthere hnone hyield
      obtain rfl := pour_of_not_file hthere hnone hpour
      refine ⟨fun hhold => ?_, fun _ => ⟨⟨there, hthere, hnone, hplain⟩, rfl⟩⟩
      rw [canHold_iff_of_node? hthere, hnone] at hhold
      cases hhold

-- Where the target can hold bytes, original and copy hold the same in the end.
theorem holds_of_sets {bytes : List UInt8} (hhold : store.CanHold place)
    (hsets : Sets store files place (if store.isShared place home then [] else bytes))
    (hsource : store.resolve directory source = .ok home)
    (hplace : store.resolve directory target = .ok place)
    (hheld : store.Holds directory source bytes) :
    files.Holds directory target (if store.isShared place home then [] else bytes) ∧
      files.Holds directory source (if store.isShared place home then [] else bytes) := by
  refine ⟨hsets.holds hhold hplace (isShared_self store place), ?_⟩
  cases hshared : store.isShared place home with
  | true =>
      have hboth := hsets.holds hhold hsource hshared
      rwa [hshared] at hboth
  | false =>
      refine (hsets.holds_iff hhold fun there hthere => ?_).mpr hheld
      rwa [← Except.ok.inj (hsource.symm.trans hthere)]

-- What can be opened at both ends is copied as far as the transfer goes.
theorem copy_of_resolve {opened : FileStore} (hsource : store.resolve directory source = .ok home)
    (hnode : store.node? home = some node) (hrefusal : node.refusal? store.user .read = none)
    (hfile : node.content.isFile = true)
    (hplace : store.resolveNew directory target = .ok place)
    (hopened : store.openNew place (Mode.without standardMask node.mode) now = .ok opened) :
    store.copy directory source target now = opened.transfer home place node now := by
  have hold := openOld_eq_ok_iff.mpr ⟨hsource, hnode, hrefusal⟩
  simp [copy, openBoth, hold, hfile, hplace, hopened, bind, Except.bind]

end Copying

end MakeCheck.FileStore
