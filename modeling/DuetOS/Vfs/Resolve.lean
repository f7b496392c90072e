import Mathlib.Data.List.MinMax
import Mathlib.Data.Set.Basic

/-!
# Path resolution

`VfsResolve` (`vfs.cpp`) picks the longest visible mount point that is a textual prefix of the path,
or else walks the ramfs tree component by component, through a cache of earlier answers. Paths are
the bytes before the terminator, `pathMax` is the size of their buffer.
-/

namespace DuetOS.Vfs

open List Option Function

/-- A node of the immutable tree, at its address; a file has no children. -/
inductive RamfsNode where
  | file (address : UInt64) (name : List Char)
  | dir (address : UInt64) (name : List Char) (children : List RamfsNode)

def RamfsNode.address : RamfsNode → UInt64
  | .file address _ | .dir address _ _ => address

def RamfsNode.name : RamfsNode → List Char
  | .file _ name | .dir _ name _ => name

def RamfsNode.children : RamfsNode → List RamfsNode
  | .file .. => []
  | .dir _ _ children => children

def ramfsIsDir : RamfsNode → Bool
  | .file .. => false
  | .dir .. => true

abbrev kDentryCacheSize : Nat := 128

def kDentryNegNameCap : Nat := 64

/-- An empty entry has the parent 0; one without a child records that a name is absent. -/
structure DentryCacheEntry where
  parent : UInt64
  child : Option RamfsNode
  nameHash : UInt32
  negName : List Char

abbrev DentryCache := Fin kDentryCacheSize → DentryCacheEntry

def dentryHash (parent : RamfsNode) (name : List Char) : UInt32 :=
  name.foldl (fun hash c => hash * 131 + c.val) (parent.address >>> 4).toUInt32

/-- `hash & (kDentryCacheSize - 1)`. -/
def dentrySlot (hash : UInt32) : Fin kDentryCacheSize := Fin.ofNat _ hash.toNat

inductive DentryProbe where
  | miss
  | positive (child : RamfsNode)
  | negative

def dentryCacheProbe (cache : DentryCache) (parent : RamfsNode) (name : List Char) : DentryProbe :=
  let hash := dentryHash parent name
  let e := cache (dentrySlot hash)
  if e.parent ≠ parent.address ∨ e.nameHash ≠ hash then .miss else
  match e.child with
  | some child => if child.name ≠ name then .miss else .positive child
  | none => if e.negName ≠ name then .miss else .negative

def dentryCacheInsert (cache : DentryCache) (parent child : RamfsNode) : DentryCache :=
  let hash := dentryHash parent child.name
  let e := cache (dentrySlot hash)
  update cache (dentrySlot hash)
    { e with parent := parent.address, child := some child, nameHash := hash }

def dentryCacheInsertNegative (cache : DentryCache) (parent : RamfsNode) (name : List Char) :
    DentryCache :=
  if kDentryNegNameCap ≤ name.length then cache else
  let hash := dentryHash parent name
  update cache (dentrySlot hash) ⟨parent.address, none, hash, name⟩

/-- A call that reads and fills the cache. -/
def Cached (α : Type) := DentryCache → α × DentryCache

instance : Monad Cached where
  pure a cache := (a, cache)
  bind call next cache := next (call cache).1 (call cache).2

/-- The loop of `FindChild` behind the cache. -/
def scanChild (dir : RamfsNode) (name : List Char) : Option RamfsNode :=
  dir.children.find? fun child => child.name = name

def findChild (dir : RamfsNode) (name : List Char) : Cached (Option RamfsNode) := fun cache =>
  if ¬ramfsIsDir dir ∨ dir.children.isEmpty then (none, cache) else
  match dentryCacheProbe cache dir name with
  | .positive hit => (some hit, cache)
  | .negative => (none, cache)
  | .miss =>
    match scanChild dir name with
    | some child => (some child, dentryCacheInsert cache dir child)
    | none => (none, dentryCacheInsertNegative cache dir name)

/-- The loop of `VfsLookup`; every pass takes a component off the path. -/
def lookupLoop : Nat → RamfsNode → List Char → Cached (Option RamfsNode)
  | 0, _, _ => pure none
  | passes + 1, cur, path =>
    let rest := path.dropWhile (· = '/')
    if rest = [] then pure (some cur) else
    let component := rest.takeWhile (· ≠ '/')
    let tail := rest.dropWhile (· ≠ '/')
    if component = ['.'] then lookupLoop passes cur tail else
    if component = ['.', '.'] then pure none else
    if ¬ramfsIsDir cur then pure none else
    findChild cur component >>= fun child =>
      match child with
      | none => pure none
      | some next => lookupLoop passes next tail

def vfsLookup (root : RamfsNode) (path : List Char) (pathMax : Nat) : Cached (Option RamfsNode) :=
  if pathMax = 0 then pure none
  else lookupLoop ((path.take pathMax).length + 1) root (path.take pathMax)

inductive FsType where
  | ramfs | fat32 | ext4 | ntfs | duetFs | ramVol | exfat
  deriving DecidableEq

structure MountEntry where
  mountPoint : List Char
  fsType : FsType
  blockHandle : Nat
  deriving DecidableEq

structure Root where
  node : RamfsNode
  trusted : Bool

def mountPrefixMatch (path : List Char) (pathLen : Nat) (mountPoint : List Char) : Bool :=
  if mountPoint.length = 0 ∨ mountPoint.length > pathLen then false else
  if path.take mountPoint.length ≠ mountPoint then false else
  if mountPoint.length = pathLen then true else
  path[mountPoint.length]?.all (· = '/')

def vfsMountVisibleFromRoot (root : Root) (mountPoint : List Char) : Cached Bool :=
  if mountPoint.head? ≠ some '/' then pure false else
  if root.trusted then pure true else do
    let node ← vfsLookup root.node mountPoint 64
    pure (node.any ramfsIsDir)

/-- One mount of the enumeration against the best so far. -/
def considerVisibleMount (root : Root) (path : List Char) (pathLen : Nat)
    (best : Option MountEntry) (entry : MountEntry) : Cached (Option MountEntry) :=
  if entry.fsType = .ramfs ∨ entry.mountPoint.length ≤ (best.map (·.mountPoint.length)).getD 0 then
    pure best
  else if ¬mountPrefixMatch path pathLen entry.mountPoint then pure best
  else do
    let visible ← vfsMountVisibleFromRoot root entry.mountPoint
    pure (if visible then some entry else best)

/-- What is left of a path behind a mount point; it is not cut at the size of the buffer. -/
def behind (entry : MountEntry) (path : List Char) (pathLen : Nat) : List Char :=
  if entry.mountPoint.length = pathLen ∨ path.drop entry.mountPoint.length = [] then ['/']
  else path.drop entry.mountPoint.length

def vfsMountResolveVisible (root : Root) (mounts : List MountEntry) (path : List Char)
    (pathMax : Nat) : Cached (Option (MountEntry × List Char)) :=
  let pathLen := min path.length pathMax
  if path.head? ≠ some '/' ∨ pathMax = 0 ∨ pathLen > 0xFFFFFFFF then pure none else do
    let best ← mounts.foldlM (considerVisibleMount root path pathLen) none
    pure (best.map fun entry => (entry, behind entry path pathLen))

/-- The nodes of the mounted file systems are whatever their lookups return. -/
inductive VfsNode (β : Type) where
  | invalid
  | ramfs (node : RamfsNode)
  | mounted (node : β)

/-- The lookups of the backends; a type without one has none. -/
abbrev Backends (β : Type) := FsType → Option (Nat → List Char → Option β)

/-- The node of a mounted file system. -/
def Backends.node {β : Type} (backends : Backends β) (entry : MountEntry) (sub : List Char) :
    VfsNode β :=
  match backends entry.fsType with
  | none => .invalid
  | some lookup => ((lookup entry.blockHandle sub).map .mounted).getD .invalid

/-- A mount that matched is never left again for the ramfs tree. -/
def vfsResolve {β : Type} (backends : Backends β) (mounts : List MountEntry) (root : Root)
    (path : List Char) (pathMax : Nat) : Cached (VfsNode β) :=
  if pathMax = 0 then pure .invalid else
  vfsMountResolveVisible root mounts path pathMax >>= fun mount =>
    match mount with
    | some (entry, sub) => pure (backends.node entry sub)
    | none => do
      let node ← vfsLookup root.node path pathMax
      pure ((node.map .ramfs).getD .invalid)

section Cache

/-- The nodes that exist: a node is known by its address, and no node is at the null address. -/
structure Forest (nodes : Set RamfsNode) : Prop where
  children : ∀ dir ∈ nodes, ∀ child ∈ dir.children, child ∈ nodes
  address : ∀ a ∈ nodes, ∀ b ∈ nodes, a.address = b.address → a = b
  nonnull : ∀ a ∈ nodes, a.address ≠ 0

/-- An entry says what the scan of its directory says. -/
def DentryCacheEntry.Answers (e : DentryCacheEntry) (dir : RamfsNode) : Prop :=
  match e.child with
  | some child => scanChild dir child.name = some child
  | none => scanChild dir e.negName = none

/-- Every entry of the cache answers as the scan does. -/
def Coherent (nodes : Set RamfsNode) (cache : DentryCache) : Prop :=
  ∀ dir ∈ nodes, ∀ slot, (cache slot).parent = dir.address → (cache slot).Answers dir

/-- The cache at boot. -/
def emptyCache : DentryCache := fun _ => ⟨0, none, 0, []⟩

/-- An empty cache has nothing to say. -/
lemma coherent_empty {nodes : Set RamfsNode} (forest : Forest nodes) : Coherent nodes emptyCache :=
  fun dir mem _ eq => absurd eq.symm (forest.nonnull dir mem)

variable {nodes : Set RamfsNode} {cache : DentryCache} {dir child : RamfsNode} {name : List Char}

lemma name_of_scanChild (found : scanChild dir name = some child) : child.name = name :=
  of_decide_eq_true (find?_some (p := fun child : RamfsNode => child.name = name) found)

/-- A new entry for a directory keeps the cache coherent if it answers for that directory. -/
lemma Coherent.update (coherent : Coherent nodes cache) (forest : Forest nodes) (mem : dir ∈ nodes)
    (slot : Fin kDentryCacheSize) {e : DentryCacheEntry} (parent : e.parent = dir.address)
    (answers : e.Answers dir) : Coherent nodes (Function.update cache slot e) := by
  intro other known i eq
  by_cases same : i = slot
  · subst same
    rw [update_self] at eq ⊢
    rwa [← forest.address dir mem other known (parent.symm.trans eq)]
  · rw [update_of_ne same] at eq ⊢
    exact coherent other known i eq

/-- A hit of the cache is what the scan would return. -/
lemma dentryCacheProbe_scan (coherent : Coherent nodes cache) (mem : dir ∈ nodes)
    (name : List Char) :
    match dentryCacheProbe cache dir name with
    | .miss => True
    | .positive child => scanChild dir name = some child
    | .negative => scanChild dir name = none := by
  simp only [dentryCacheProbe]
  have answers := coherent dir mem (dentrySlot (dentryHash dir name))
  generalize cache (dentrySlot (dentryHash dir name)) = e at answers ⊢
  obtain ⟨parent, stored, nameHash, negName⟩ := e
  by_cases other : parent ≠ dir.address ∨ nameHash ≠ dentryHash dir name
  · rw [if_pos other]
    trivial
  rw [if_neg other]
  replace answers := answers (not_not.mp (not_or.mp other).1)
  -- parent and hash agree, so the name decides
  cases stored with
  | none =>
    by_cases same : negName ≠ name
    · simp only [if_pos same]
    · simp only [if_neg same]
      exact not_not.mp same ▸ answers
  | some child =>
    by_cases same : child.name ≠ name
    · simp only [if_pos same]
    · simp only [if_neg same]
      exact not_not.mp same ▸ answers

/-- What a call returns whatever a coherent cache holds; the cache stays coherent. -/
def Answers {α : Type} (nodes : Set RamfsNode) (call : Cached α) (answer : α) : Prop :=
  ∀ cache, Coherent nodes cache → (call cache).1 = answer ∧ Coherent nodes (call cache).2

lemma Answers.pure {α : Type} (a : α) : Answers nodes (Pure.pure a : Cached α) a :=
  fun _ coherent => ⟨rfl, coherent⟩

/-- Calls one after the other. -/
lemma Answers.bind {α β : Type} {call : Cached α} {next : α → Cached β} {a : α} {b : β}
    (first : Answers nodes call a) (second : Answers nodes (next a) b) :
    Answers nodes (call >>= next) b := by
  intro cache coherent
  obtain ⟨eq, kept⟩ := first cache coherent
  have rest := second _ kept
  rw [← eq] at rest
  exact rest

/-- `FindChild` returns what the scan returns. -/
lemma findChild_answers (forest : Forest nodes) (mem : dir ∈ nodes) (name : List Char) :
    Answers nodes (findChild dir name) (scanChild dir name) := by
  intro cache coherent
  rw [findChild]
  split
  next none =>
    refine ⟨?_, coherent⟩
    rcases dir with _ | ⟨_, _, _ | _⟩ <;> simp_all [scanChild, RamfsNode.children, ramfsIsDir]
  next =>
  have hit := dentryCacheProbe_scan coherent mem name
  split <;> rename_i probe <;> rw [probe] at hit
  · exact ⟨hit.symm, coherent⟩
  · exact ⟨hit.symm, coherent⟩
  cases found : scanChild dir name with
  | some child =>
    have answers : scanChild dir child.name = some child := (name_of_scanChild found).symm ▸ found
    exact ⟨rfl, coherent.update forest mem _ rfl answers⟩
  | none =>
    refine ⟨rfl, ?_⟩
    dsimp only
    rw [dentryCacheInsertNegative]
    split
    · exact coherent
    · exact coherent.update forest mem _ rfl found

end Cache

/-- Names that are skipped. -/
def kept (component : List Char) : List (List Char) :=
  if component = [] ∨ component = ['.'] then [] else [component]

/-- The components of a path behind the part `read` of the current one. -/
def componentsFrom : List Char → List Char → List (List Char)
  | read, [] => kept read
  | read, c :: rest =>
    if c = '/' then kept read ++ componentsFrom [] rest else componentsFrom (read ++ [c]) rest

/-- The components of a path, without empty ones and dots. -/
def components (path : List Char) : List (List Char) := componentsFrom [] path

lemma components_slash (rest : List Char) : components ('/' :: rest) = components rest := rfl

/-- Separators in front do not matter. -/
lemma components_dropWhile (path : List Char) :
    components (path.dropWhile (· = '/')) = components path := by
  induction path with
  | nil => rfl
  | cons c path ih =>
    by_cases slash : c = '/'
    · rw [dropWhile_cons_of_pos (by simpa using slash), ih, slash, components_slash]
    · rw [dropWhile_cons_of_neg (by simpa using slash)]

/-- The first component is what the loop reads up to the next separator. -/
lemma componentsFrom_takeWhile (read path : List Char) : componentsFrom read path =
    kept (read ++ path.takeWhile (· ≠ '/')) ++ components (path.dropWhile (· ≠ '/')) := by
  induction path generalizing read with
  | nil => simp [components, componentsFrom, kept]
  | cons c path ih =>
    rw [componentsFrom]
    by_cases slash : c = '/'
    · rw [if_pos slash, takeWhile_cons_of_neg (by simpa using slash), append_nil,
        dropWhile_cons_of_neg (by simpa using slash), slash, components_slash]
      rfl
    · rw [if_neg slash, ih, takeWhile_cons_of_pos (by simpa using slash),
        dropWhile_cons_of_pos (by simpa using slash), append_assoc, singleton_append]

/-- The walk over components that are already split. -/
def descend : RamfsNode → List (List Char) → Option RamfsNode
  | cur, [] => some cur
  | cur, component :: rest =>
    if component = ['.', '.'] then none else
    if ¬ramfsIsDir cur then none else (scanChild cur component).bind (descend · rest)

/-- The mount point can be seen from the root. -/
def visible (root : Root) (mountPoint : List Char) : Bool :=
  mountPoint.head? = some '/' &&
    (root.trusted || (descend root.node (components (mountPoint.take 64))).any ramfsIsDir)

/-- A visible mount whose text is a prefix of the path. -/
def enterable (root : Root) (path : List Char) (entry : MountEntry) : Bool :=
  entry.fsType ≠ .ramfs && mountPrefixMatch path path.length entry.mountPoint &&
    visible root entry.mountPoint

/-- The longest of these mounts, the first of them if there are several. -/
def longest (root : Root) (mounts : List MountEntry) (path : List Char) : Option MountEntry :=
  (mounts.filter (enterable root path)).argmax (·.mountPoint.length)

/-- An absolute path that fits into its buffer. -/
structure Fits (pathMax : Nat) (path : List Char) : Prop where
  absolute : path.head? = some '/'
  buffer : path.length ≤ pathMax
  length : path.length ≤ 0xFFFFFFFF

/-- The node a path leads to, without a cache. -/
def resolved {β : Type} (backends : Backends β) (mounts : List MountEntry) (root : Root)
    (path : List Char) : VfsNode β :=
  match longest root mounts path with
  | some entry => backends.node entry (behind entry path path.length)
  | none => ((descend root.node (components path)).map .ramfs).getD .invalid

section Lookup

variable {nodes : Set RamfsNode} (forest : Forest nodes)

include forest

/-- One pass per component; the induction is on the passes. -/
lemma lookupLoop_answers {cur : RamfsNode} {path : List Char} {passes : Nat} (mem : cur ∈ nodes)
    (enough : path.length < passes) :
    Answers nodes (lookupLoop passes cur path) (descend cur (components path)) := by
  induction passes generalizing cur path with
  | zero => omega
  | succ passes ih =>
    rw [lookupLoop, ← components_dropWhile]
    have shorter := (dropWhile_suffix (· = '/') (l := path)).length_le
    have first := head?_dropWhile_not (· = '/') path
    generalize path.dropWhile (· = '/') = rest at shorter first
    cases rest with
    | nil => exact .pure _
    | cons c rest =>
      have proper : c ≠ '/' := by simpa using first
      have tail := (dropWhile_suffix (· ≠ '/') (l := rest)).length_le
      rw [length_cons] at shorter
      rw [if_neg (cons_ne_nil _ _), components, componentsFrom_takeWhile, nil_append,
        takeWhile_cons_of_pos (by simpa using proper),
        dropWhile_cons_of_pos (by simpa using proper)]
      have go {next : RamfsNode} (mem : next ∈ nodes) :
          Answers nodes (lookupLoop passes next (rest.dropWhile (· ≠ '/')))
            (descend next (components (rest.dropWhile (· ≠ '/')))) := ih mem (by omega)
      generalize rest.dropWhile (· ≠ '/') = left at go
      by_cases dot : c :: rest.takeWhile (· ≠ '/') = ['.']
      · rw [if_pos dot, kept, if_pos (.inr dot)]
        exact go mem
      rw [if_neg dot, kept, if_neg (not_or.mpr ⟨cons_ne_nil _ _, dot⟩), singleton_append, descend]
      generalize c :: rest.takeWhile (· ≠ '/') = component
      by_cases up : component = ['.', '.']
      · rw [if_pos up, if_pos up]
        exact .pure _
      rw [if_neg up, if_neg up]
      by_cases file : ¬ramfsIsDir cur
      · rw [if_pos file, if_pos file]
        exact .pure _
      rw [if_neg file, if_neg file]
      refine (findChild_answers forest mem component).bind ?_
      cases found : scanChild cur component with
      | none => exact .pure _
      | some next => exact go (forest.children cur mem next (mem_of_find?_eq_some found))

variable {root : Root} (mem : root.node ∈ nodes)

include mem

/-- `VfsLookup` walks the components of what is in the buffer. -/
lemma vfsLookup_answers {pathMax : Nat} (some : pathMax ≠ 0) (path : List Char) :
    Answers nodes (vfsLookup root.node path pathMax)
      (descend root.node (components (path.take pathMax))) := by
  rw [vfsLookup, if_neg some]
  exact lookupLoop_answers forest mem (Nat.lt_succ_self _)

/-- Whether a mount can be seen does not depend on the cache. -/
lemma vfsMountVisibleFromRoot_answers (mountPoint : List Char) :
    Answers nodes (vfsMountVisibleFromRoot root mountPoint) (visible root mountPoint) := by
  rw [vfsMountVisibleFromRoot, visible]
  by_cases absolute : mountPoint.head? = some '/'
  · rw [if_neg (not_not.mpr absolute), decide_eq_true absolute, Bool.true_and]
    cases root.trusted with
    | true => exact .pure _
    | false => exact (vfsLookup_answers forest mem (by decide) mountPoint).bind (.pure _)
  · rw [if_pos absolute, decide_eq_false absolute]
    exact .pure _

/-- An enterable mount replaces the best so far if it is longer. -/
lemma considerVisibleMount_answers (path : List Char) (best : Option MountEntry)
    (entry : MountEntry) :
    Answers nodes (considerVisibleMount root path path.length best entry)
      (if enterable root path entry then
        argAux (fun b c : MountEntry => c.mountPoint.length < b.mountPoint.length) best entry
      else best) := by
  rw [considerVisibleMount]
  by_cases ramfs : entry.fsType = .ramfs
  · rw [if_pos (.inl ramfs), if_neg (by simp [enterable, ramfs])]
    exact .pure _
  by_cases matched : mountPrefixMatch path path.length entry.mountPoint
  · have pos : entry.mountPoint.length ≠ 0 := fun zero => by
      rw [mountPrefixMatch, if_pos (.inl zero)] at matched
      cases matched
    have seen : enterable root path entry = visible root entry.mountPoint := by
      simp [enterable, ramfs, matched]
    rw [seen]
    by_cases short : entry.mountPoint.length ≤ (best.map (·.mountPoint.length)).getD 0
    · rw [if_pos (.inr short)]
      cases best with
      | none => exact absurd (Nat.le_zero.mp short) pos
      | some best =>
        have kept : argAux (fun b c : MountEntry => c.mountPoint.length < b.mountPoint.length)
            (some best) entry = some best := if_neg (Nat.not_lt.mpr short)
        rw [kept, ite_self]
        exact .pure _
    · rw [if_neg (not_or.mpr ⟨ramfs, short⟩), if_neg (not_not.mpr matched)]
      refine (vfsMountVisibleFromRoot_answers forest mem entry.mountPoint).bind ?_
      have taken : argAux (fun b c : MountEntry => c.mountPoint.length < b.mountPoint.length)
          best entry = some entry := by
        cases best with
        | none => rfl
        | some best => exact if_pos (Nat.not_le.mp short)
      rw [taken]
      exact .pure _
  · have unseen : ¬enterable root path entry := by simp [enterable, matched]
    rw [if_neg unseen, if_pos matched, ite_self]
    exact .pure _

omit forest mem in
/-- The induction is on the list, with the cache carried along. -/
lemma foldlM_answers {α β : Type} {step : β → α → Cached β} {next : β → α → β}
    (each : ∀ b a, Answers nodes (step b a) (next b a)) (l : List α) (b : β) :
    Answers nodes (l.foldlM step b) (l.foldl next b) := by
  induction l generalizing b with
  | nil => exact .pure _
  | cons a l ih => exact (each b a).bind (ih _)

/-- The enumeration picks the longest mount that can be entered. -/
lemma vfsMountResolveVisible_answers (mounts : List MountEntry) {pathMax : Nat} {path : List Char}
    (fits : Fits pathMax path) :
    pathMax ≠ 0 ∧ Answers nodes (vfsMountResolveVisible root mounts path pathMax)
      ((longest root mounts path).map fun entry => (entry, behind entry path path.length)) := by
  have some : pathMax ≠ 0 := by
    rintro rfl
    have absolute := fits.absolute
    rw [eq_nil_of_length_eq_zero (Nat.le_zero.mp fits.buffer)] at absolute
    cases absolute
  refine ⟨some, ?_⟩
  rw [vfsMountResolveVisible, Nat.min_eq_left fits.buffer, if_neg]
  · rw [longest, argmax, foldl_filter]
    exact (foldlM_answers (considerVisibleMount_answers forest mem path) mounts none).bind (.pure _)
  · rintro (relative | zero | long)
    · exact relative fits.absolute
    · exact some zero
    · exact absurd fits.length (Nat.not_le.mpr long)

/-- `VfsResolve` returns the same node whatever the cache holds. -/
lemma vfsResolve_answers {β : Type} (backends : Backends β) (mounts : List MountEntry)
    {pathMax : Nat} {path : List Char} (fits : Fits pathMax path) :
    Answers nodes (vfsResolve backends mounts root path pathMax)
      (resolved backends mounts root path) := by
  obtain ⟨some, entered⟩ := vfsMountResolveVisible_answers forest mem mounts fits
  rw [vfsResolve, if_neg some, resolved]
  refine entered.bind ?_
  cases longest root mounts path with
  | some entry => exact .pure _
  | none =>
    have walked := vfsLookup_answers forest mem some path
    rw [take_of_length_le fits.buffer] at walked
    exact walked.bind (.pure _)

end Lookup

/-- Every backend skips empty components and dots. -/
def Backends.Blind {β : Type} (backends : Backends β) : Prop :=
  ∀ fsType lookup handle path path', backends fsType = some lookup →
    components path = components path' → lookup handle path = lookup handle path'

/-- The longest mounts of two paths are of one volume, with the same components left behind them. -/
def SameVolume (root : Root) (mounts : List MountEntry) (path path' : List Char) : Prop :=
  match longest root mounts path, longest root mounts path' with
  | none, none => True
  | some entry, some entry' =>
    entry.fsType = entry'.fsType ∧ entry.blockHandle = entry'.blockHandle ∧
      components (behind entry path path.length) = components (behind entry' path' path'.length)
  | _, _ => False

/-- The backends that return what they are asked for. -/
def echo : Backends (FsType × Nat × List (List Char)) := fun fsType =>
  some fun handle path => some (fsType, handle, components path)

lemma echo_blind : echo.Blind := by
  rintro fsType lookup handle path path' ⟨⟩ same
  exact congrArg (fun rest => some (fsType, handle, rest)) same

/-- A mounted file system returns no ramfs node. -/
lemma Backends.node_ne_ramfs {β : Type} (backends : Backends β) {entry : MountEntry}
    {sub : List Char} {node : RamfsNode} : backends.node entry sub ≠ .ramfs node := by
  rw [Backends.node]
  rcases backends entry.fsType with _ | lookup
  · nofun
  · dsimp only
    rcases lookup entry.blockHandle sub with _ | _ <;> nofun

/-- Two spellings lead to one node, whatever the backends do, exactly if they lead to one volume. -/
lemma resolved_iff {root : Root} {mounts : List MountEntry} {path path' : List Char}
    (same : components path = components path') :
    (∀ (β : Type) (backends : Backends β), backends.Blind →
      resolved backends mounts root path = resolved backends mounts root path') ↔
      SameVolume root mounts path path' := by
  rw [SameVolume]
  constructor
  · intro all
    have eq := all _ echo echo_blind
    rw [resolved, resolved] at eq
    generalize longest root mounts path = mount at eq ⊢
    generalize longest root mounts path' = mount' at eq ⊢
    rcases mount with _ | entry <;> rcases mount' with _ | entry'
    · trivial
    · generalize descend root.node (components path) = node at eq
      cases node <;> cases eq
    · generalize descend root.node (components path') = node at eq
      cases node <;> cases eq
    · simpa [Backends.node, echo] using eq
  · intro volume β backends blind
    rw [resolved, resolved]
    generalize longest root mounts path = mount at volume ⊢
    generalize longest root mounts path' = mount' at volume ⊢
    rcases mount with _ | entry <;> rcases mount' with _ | entry'
    · dsimp only
      rw [same]
    · exact volume.elim
    · exact volume.elim
    · obtain ⟨fsType, handle, rest⟩ := volume
      dsimp only
      rw [Backends.node, Backends.node, fsType, handle]
      cases ops : backends entry'.fsType with
      | none => rfl
      | some lookup =>
        dsimp only
        rw [blind _ lookup _ _ _ ops rest]

/-- Two spellings of one component list are resolved alike exactly if the longest visible mounts
that are textual prefixes of them are of one volume. A path stays out of the ramfs tree exactly if
there is such a mount, or no such node. Only visible mounts are entered. -/
theorem resolve_by_components {nodes : Set RamfsNode} (forest : Forest nodes) {root : Root}
    (mem : root.node ∈ nodes)
    (mounts : List MountEntry)
    {pathMax : Nat} {path path' : List Char}
    (fits : Fits pathMax path)
    (fits' : Fits pathMax path')
    (same : components path = components path') :
    ((∀ (β : Type) (backends : Backends β), backends.Blind →
        ∀ cache cache', Coherent nodes cache → Coherent nodes cache' →
          (vfsResolve backends mounts root path pathMax cache).1 =
            (vfsResolve backends mounts root path' pathMax cache').1) ↔
      SameVolume root mounts path path') ∧
    ∀ cache, Coherent nodes cache →
      ((∀ (β : Type) (backends : Backends β) node,
          (vfsResolve backends mounts root path pathMax cache).1 ≠ .ramfs node) ↔
        (∃ entry ∈ mounts, enterable root path entry) ∨
          descend root.node (components path) = none) ∧
      ∀ entry sub, (vfsMountResolveVisible root mounts path pathMax cache).1 = some (entry, sub) →
        visible root entry.mountPoint := by
  have answers {β : Type} (backends : Backends β) {path} (fits : Fits pathMax path) {cache}
      (coherent : Coherent nodes cache) :=
    (vfsResolve_answers forest mem backends mounts fits cache coherent).1
  refine ⟨?_, fun cache coherent => ⟨?_, fun entry sub entered => ?_⟩⟩
  · rw [← resolved_iff same]
    constructor
    · intro all β backends blind
      have empty := coherent_empty forest
      rw [← answers backends fits empty, ← answers backends fits' empty]
      exact all β backends blind _ _ empty empty
    · intro all β backends blind cache cache' coherent coherent'
      rw [answers backends fits coherent, answers backends fits' coherent']
      exact all β backends blind
  · have some_iff : (∃ entry ∈ mounts, enterable root path entry) ↔
      longest root mounts path ≠ none := by
      simp [longest, argmax_eq_none]
    rw [some_iff]
    constructor
    · intro never
      by_contra both
      obtain ⟨none, node⟩ := not_or.mp both
      obtain ⟨node, found⟩ := ne_none_iff_exists'.mp node
      refine never _ echo node ?_
      rw [answers echo fits coherent, resolved, not_not.mp none, found]
      rfl
    · rintro mounted β backends node eq
      rw [answers backends fits coherent, resolved] at eq
      generalize longest root mounts path = mount at mounted eq
      rcases mount with _ | entry
      · rw [mounted.resolve_left (· rfl)] at eq
        cases eq
      · exact backends.node_ne_ramfs eq
  · rw [((vfsMountResolveVisible_answers forest mem mounts fits).2 cache coherent).1] at entered
    obtain ⟨best, chosen, eq⟩ := map_eq_some_iff.mp entered
    cases eq
    have enters := of_mem_filter (argmax_mem chosen)
    rw [enterable, Bool.and_eq_true] at enters
    exact enters.2

/-- The tree of a directory with one file. -/
def runFile : RamfsNode := .file 48 ['x']

def runDir : RamfsNode := .dir 32 ['r', 'u', 'n'] [runFile]

/-- The trusted root, with a file in the directory of a mount point. -/
def runRoot : Root := ⟨.dir 16 [] [runDir], true⟩

/-- A volume mounted over the directory. -/
def runMount : MountEntry := ⟨['/', 'r', 'u', 'n'], .ramVol, 0⟩

lemma runForest : Forest {runRoot.node, runDir, runFile} where
  children := by
    rintro dir (rfl | rfl | rfl) child mem
    · exact .inr (.inl (mem_singleton.mp mem))
    · exact .inr (.inr (mem_singleton.mp mem))
    · cases mem
  address := by
    rintro a (rfl | rfl | rfl) b (rfl | rfl | rfl) eq <;> first | rfl | exact absurd eq (by decide)
  nonnull := by
    rintro a (rfl | rfl | rfl) <;> decide

/-- Two spellings that differ behind the mount point lead to one volume. -/
theorem resolve_by_components_run :
    (vfsResolve echo [runMount] runRoot ['/', 'r', 'u', 'n', '/', '/', 'x'] 64 emptyCache).1 =
      (vfsResolve echo [runMount] runRoot ['/', 'r', 'u', 'n', '/', 'x'] 64 emptyCache).1 := by
  have volume : SameVolume runRoot [runMount] ['/', 'r', 'u', 'n', '/', '/', 'x']
      ['/', 'r', 'u', 'n', '/', 'x'] := ⟨rfl, rfl, by decide⟩
  have empty := coherent_empty runForest
  exact (resolve_by_components runForest (.inl rfl) [runMount] ⟨rfl, by decide, by decide⟩
    ⟨rfl, by decide, by decide⟩ (by decide)).1.mpr volume _ echo echo_blind _ _ empty empty

/-- A second slash before the mount point, and the path leads to the covered ramfs file. -/
theorem double_slash_pierces_mount :
    components ['/', '/', 'r', 'u', 'n', '/', 'x'] = components ['/', 'r', 'u', 'n', '/', 'x'] ∧
      (vfsResolve echo [runMount] runRoot ['/', 'r', 'u', 'n', '/', 'x'] 64 emptyCache).1 =
        .mounted (.ramVol, 0, [['x']]) ∧
      (vfsResolve echo [runMount] runRoot ['/', '/', 'r', 'u', 'n', '/', 'x'] 64 emptyCache).1 =
        .ramfs runFile :=
  ⟨by decide, rfl, rfl⟩

end DuetOS.Vfs
