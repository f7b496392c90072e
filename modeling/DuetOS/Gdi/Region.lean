import Mathlib.Data.List.Pairwise
import Mathlib.Order.Lattice

/-!
# Regions as lists of rectangles

The combine operations of `gdi32_region.h`. Each of them cuts every rectangle of one list into
disjoint pieces that cover what it shares with some set of points; `Shows.refine` says that this is
set algebra on the whole list.
-/

namespace DuetOS.Gdi

open List

structure GdiRgnRect where
  (left top right bottom : Int)
deriving DecidableEq

def gdiRgnWorkCap : Int := 32

def GdiRgnRect.Covers (r : GdiRgnRect) (x y : Int) :
    Prop := r.left ≤ x ∧ x < r.right ∧ r.top ≤ y ∧ y < r.bottom

instance (r : GdiRgnRect) (x y : Int) :
    Decidable (r.Covers x y) := inferInstanceAs (Decidable (_ ∧ _))

/-- Normalised and not empty. -/
def GdiRgnRect.Proper (r : GdiRgnRect) : Prop := r.left < r.right ∧ r.top < r.bottom

instance (r : GdiRgnRect) : Decidable r.Proper := inferInstanceAs (Decidable (_ ∧ _))

def gdiRgnPtIn (rects : List GdiRgnRect) (x y : Int) : Bool := rects.any (·.Covers x y)

/-- The top band, the bottom band, the middle left and the middle right of what is left of `r`. -/
def gdiRgnSubtractRect (r s : GdiRgnRect) : List GdiRgnRect :=
  if s.right ≤ r.left ∨ r.right ≤ s.left ∨ s.bottom ≤ r.top ∨ r.bottom ≤ s.top then [r]
  else
    let midTop := if r.top < s.top then s.top else r.top
    let midBot := if s.bottom < r.bottom then s.bottom else r.bottom
    (if r.top < s.top then [⟨r.left, r.top, r.right, s.top⟩] else []) ++
      (if s.bottom < r.bottom then [⟨r.left, s.bottom, r.right, r.bottom⟩] else []) ++
      (if r.left < s.left then [⟨r.left, midTop, s.left, midBot⟩] else []) ++
      if s.right < r.right then [⟨s.right, midTop, r.right, midBot⟩] else []

section

variable (a b : List GdiRgnRect) (cap : Int)

/-- The write of one piece; `none` is the result -1. -/
def put (out : List GdiRgnRect) (piece : GdiRgnRect) : Option (List GdiRgnRect) :=
  if cap ≤ out.length then none else some (out ++ [piece])

/-- What the inner loop of `GdiRgnIntersect` computes for two rectangles. -/
def meet (r s : GdiRgnRect) : GdiRgnRect :=
  ⟨if s.left < r.left then r.left else s.left, if s.top < r.top then r.top else s.top,
    if r.right < s.right then r.right else s.right, if r.bottom < s.bottom then r.bottom
      else s.bottom⟩

def gdiRgnIntersect : Option (List GdiRgnRect) :=
  (a.flatMap fun r => b.map (meet r)).foldlM
    (fun out piece => if piece.Proper then put cap out piece else some out) []

def gdiRgnSubtract : Option (List GdiRgnRect) :=
  if gdiRgnWorkCap < a.length then none
  else do
    let cur ← b.foldlM
      (fun cur s => (cur.flatMap (gdiRgnSubtractRect · s)).foldlM (put gdiRgnWorkCap) []) a
    if cap < cur.length then none else some cur

def gdiRgnUnion : Option (List GdiRgnRect) := do
  let extra ← gdiRgnSubtract b a gdiRgnWorkCap
  if cap < a.length + extra.length then none else some (a ++ extra)

def gdiRgnXor : Option (List GdiRgnRect) := do
  let ab ← gdiRgnSubtract a b gdiRgnWorkCap
  let ba ← gdiRgnSubtract b a gdiRgnWorkCap
  if cap < ab.length + ba.length then none else some (ab ++ ba)

end

def Points (rects : List GdiRgnRect) (x y : Int) : Prop := ∃ r ∈ rects, r.Covers x y

structure Valid (rects : List GdiRgnRect) : Prop where
  proper : ∀ r ∈ rects, r.Proper
  apart : rects.Pairwise fun r s => ∀ x y, ¬(r.Covers x y ∧ s.Covers x y)

/-- The list stands for the points of `S`. -/
structure Shows (rects : List GdiRgnRect) (S : Int → Int → Prop) : Prop extends Valid rects where
  points : ∀ x y, Points rects x y ↔ S x y

variable {a b out : List GdiRgnRect} {cap : Int} {r : GdiRgnRect} {S T : Int → Int → Prop}

lemma ptIn_iff {rects x y} : gdiRgnPtIn rects x y ↔ Points rects x y := by
  simp [gdiRgnPtIn, Points]

/-- Cutting every rectangle of a list down to its part in `T`. -/
lemma Shows.refine {cut : GdiRgnRect → List GdiRgnRect} (shows : Shows a S)
    (cuts : ∀ r ∈ a, Shows (cut r) fun x y => r.Covers x y ∧ T x y) :
    Shows (a.flatMap cut) fun x y => S x y ∧ T x y := by
  have within : ∀ {r p x y}, r ∈ a → p ∈ cut r → p.Covers x y → r.Covers x y :=
    fun mem piece covers =>
    (((cuts _ mem).points _ _).mp ⟨_, piece, covers⟩).1
  refine ⟨⟨fun p mem => ?_, ?_⟩, fun x y => ?_⟩
  · obtain ⟨r, mem, piece⟩ := mem_flatMap.mp mem
    exact (cuts r mem).proper p piece
  · refine pairwise_flatMap.mpr ⟨fun r mem => (cuts r mem).apart, ?_⟩
    refine shows.apart.imp_of_mem fun {r s} mem mem' apart p piece q piece' x y both => ?_
    exact apart x y ⟨within mem piece both.1, within mem' piece' both.2⟩
  · rw [← shows.points]
    constructor
    · rintro ⟨p, mem, covers⟩
      obtain ⟨r, mem, piece⟩ := mem_flatMap.mp mem
      exact ⟨⟨r, mem, within mem piece covers⟩, (((cuts r mem).points x y).mp ⟨p, piece, covers⟩).2⟩
    · rintro ⟨⟨r, mem, covers⟩, holds⟩
      obtain ⟨p, piece, covers⟩ := ((cuts r mem).points x y).mpr ⟨covers, holds⟩
      exact ⟨p, mem_flatMap.mpr ⟨r, mem, piece⟩, covers⟩

/-- Lists of sets that share no point can be put together. -/
lemma Shows.append (shows : Shows a S) (shows' : Shows b T) (apart : ∀ x y, ¬(S x y ∧ T x y)) :
    Shows (a ++ b) fun x y => S x y ∨ T x y where
  proper r mem := (mem_append.mp mem).elim (shows.proper r) (shows'.proper r)
  apart := pairwise_append.mpr ⟨shows.apart, shows'.apart, fun r mem s mem' x y both =>
    apart x y ⟨(shows.points x y).mp ⟨r, mem, both.1⟩, (shows'.points x y).mp ⟨s, mem', both.2⟩⟩⟩
  points x y := by
    rw [← shows.points, ← shows'.points]
    simp [Points, or_and_right, exists_or]

lemma Shows.congr (shows : Shows a S) (same : ∀ x y, S x y ↔ T x y) : Shows a T :=
  ⟨shows.toValid, fun x y => (shows.points x y).trans (same x y)⟩

lemma Valid.shows (valid : Valid a) : Shows a (Points a) := ⟨valid, fun _ _ => Iff.rfl⟩

lemma shows_if {c : Prop} [Decidable c] {p : GdiRgnRect} (proper : c → p.Proper) :
    Shows (if c then [p] else []) fun x y => c ∧ p.Covers x y := by
  split
  next holds =>
    exact ⟨⟨by simpa using proper holds, pairwise_singleton ..⟩, fun x y => by simp [Points, holds]⟩
  next fails => exact ⟨⟨nofun, .nil⟩, fun x y => by simp [Points, fails]⟩

/-- The four pieces are a partition of what is left of the rectangle. -/
lemma subtractRect_shows (proper : r.Proper) (proper' : s.Proper) :
    Shows (gdiRgnSubtractRect r s) fun x y => r.Covers x y ∧ ¬s.Covers x y := by
  obtain ⟨wide, high⟩ := proper
  obtain ⟨wide', high'⟩ := proper'
  unfold gdiRgnSubtractRect
  split
  next clear =>
    refine ⟨⟨by simpa using ⟨wide, high⟩, pairwise_singleton ..⟩, fun x y => ?_⟩
    simp only [Points, mem_singleton, exists_eq_left, GdiRgnRect.Covers]
    omega
  next =>
    dsimp only
    have midTop : (if r.top < s.top then s.top else r.top) = max r.top s.top := by split <;> omega
    have midBot : (if s.bottom < r.bottom then s.bottom else r.bottom) = min r.bottom s.bottom := by
      split <;> omega
    rw [midTop, midBot]
    refine ((((shows_if fun _ => ?_).append (shows_if fun _ => ?_) ?_).append (shows_if fun _ => ?_)
      ?_).append
      (shows_if fun _ => ?_) ?_).congr ?_
    all_goals simp only [GdiRgnRect.Proper, GdiRgnRect.Covers]
    all_goals omega

lemma covers_meet {x y} : (meet r s).Covers x y ↔ r.Covers x y ∧ s.Covers x y := by
  unfold meet GdiRgnRect.Covers
  dsimp only
  split <;> split <;> split <;> split <;> omega

lemma GdiRgnRect.Covers.proper {x y} (covers : r.Covers x y) : r.Proper :=
  ⟨lt_of_le_of_lt covers.1 covers.2.1, lt_of_le_of_lt covers.2.2.1 covers.2.2.2⟩

lemma meets_shows (valid : Valid b) :
    Shows ((b.map (meet r)).filter (·.Proper)) fun x y => r.Covers x y ∧ Points b x y where
  proper p mem := of_decide_eq_true (mem_filter.mp mem).2
  apart := by
    refine (pairwise_map.mpr (valid.apart.imp fun apart x y both => apart x y ?_)).filter _
    exact ⟨(covers_meet.mp both.1).2, (covers_meet.mp both.2).2⟩
  points x y := by
    constructor
    · rintro ⟨p, mem, covers⟩
      obtain ⟨s, mem', rfl⟩ := mem_map.mp (mem_filter.mp mem).1
      obtain ⟨inside, inside'⟩ := covers_meet.mp covers
      exact ⟨inside, s, mem', inside'⟩
    · rintro ⟨covers, s, mem, covers'⟩
      have both := covers_meet.mpr ⟨covers, covers'⟩
      exact ⟨_, mem_filter.mpr ⟨mem_map_of_mem mem, decide_eq_true both.proper⟩, both⟩

lemma put_all {pieces} (ran : pieces.foldlM (put cap) out = some b) :
    b = out ++ pieces ∧ (pieces ≠ [] → b.length ≤ cap) := by
  induction pieces generalizing out with
  | nil =>
    cases ran
    exact ⟨(append_nil _).symm, nofun⟩
  | cons piece pieces ih =>
    obtain ⟨next, wrote, ran⟩ := Option.bind_eq_some_iff.mp ran
    unfold put at wrote
    split at wrote <;> cases wrote
    next room =>
      obtain ⟨rfl, bound⟩ := ih ran
      refine ⟨append_assoc .., fun _ => ?_⟩
      cases pieces with
      | nil => simp; omega
      | cons => exact bound nofun

/-- The intersection shows the common points, within the cap. -/
lemma intersect_shows (shows : Shows a S) (valid : Valid b)
    (ran : gdiRgnIntersect a b cap = some out) :
    Shows out (fun x y => S x y ∧ Points b x y) ∧ out.length ≤ max cap 0 := by
  have filtered : gdiRgnIntersect a b cap =
      (a.flatMap fun r => (b.map (meet r)).filter (·.Proper)).foldlM (put cap) [] := by
    rw [← filter_flatMap, foldlM_filter]
    simp [gdiRgnIntersect]
  obtain ⟨rfl, bound⟩ := put_all (filtered ▸ ran)
  refine ⟨shows.refine fun r mem => meets_shows valid, ?_⟩
  rcases eq_or_ne (a.flatMap fun r => (b.map (meet r)).filter (·.Proper)) [] with none | some
  · rw [none]
    exact le_max_right ..
  · exact (bound some).trans (le_max_left ..)

/-- Subtracting one rectangle after the other; the induction is on what is subtracted. -/
lemma carve_shows {cur} (shows : Shows a S) (proper : ∀ s ∈ b, s.Proper)
    (ran : b.foldlM (fun cur s => (cur.flatMap (gdiRgnSubtractRect · s)).foldlM (put gdiRgnWorkCap)
      []) a = some cur) :
    Shows cur fun x y => S x y ∧ ¬Points b x y := by
  induction b generalizing a S with
  | nil =>
    cases ran
    exact shows.congr fun x y => by simp [Points]
  | cons s b ih =>
    obtain ⟨next, cut, ran⟩ := Option.bind_eq_some_iff.mp ran
    obtain ⟨rfl, _⟩ := put_all cut
    rw [forall_mem_cons] at proper
    have cuts := shows.refine fun r mem => subtractRect_shows (shows.proper r mem) proper.1
    exact (ih cuts proper.2 ran).congr fun x y => by simp [Points, and_assoc]

/-- The difference shows what is left, within the cap. -/
lemma subtract_shows (shows : Shows a S) (valid : Valid b)
    (ran : gdiRgnSubtract a b cap = some out) :
    Shows out (fun x y => S x y ∧ ¬Points b x y) ∧ out.length ≤ cap := by
  unfold gdiRgnSubtract at ran
  split at ran
  · cases ran
  obtain ⟨cur, carved, ran⟩ := Option.bind_eq_some_iff.mp ran
  obtain ⟨fits, same⟩ := Option.ite_none_left_eq_some.mp ran
  cases same
  exact ⟨carve_shows shows valid.proper carved, Int.not_lt.mp fits⟩

/-- A result that fits: disjoint proper rectangles whose points are the Boolean combination of the
points of the lists. -/
structure Combines (f : Bool → Bool → Bool) (a b : List GdiRgnRect) (cap : Int)
    (out : List GdiRgnRect) : Prop
    extends Valid out where
  fits : out.length ≤ max cap 0
  exact_points : ∀ x y, gdiRgnPtIn out x y = f (gdiRgnPtIn a x y) (gdiRgnPtIn b x y)

theorem region_combination_exact {a b : List GdiRgnRect} (valid : Valid a) (valid' : Valid b)
    (cap : Int) :
    (∀ out, gdiRgnIntersect a b cap = some out → Combines (· && ·) a b cap out) ∧
    (∀ out, gdiRgnSubtract a b cap = some out → Combines (· && !·) a b cap out) ∧
    (∀ out, gdiRgnUnion a b cap = some out → Combines (· || ·) a b cap out) ∧
    ∀ out, gdiRgnXor a b cap = some out → Combines xor a b cap out := by
  have combine : ∀ {f out S}, Shows out S → (out.length : Int) ≤ max cap 0 → (∀ x y, S x y ↔
      f (gdiRgnPtIn a x y) (gdiRgnPtIn b x y)) → Combines f a b cap out := fun shows fits same =>
    ⟨shows.toValid, fits,
      fun x y => Bool.eq_iff_iff.mpr (ptIn_iff.trans ((shows.points x y).trans (same x y)))⟩
  have joined : ∀ {f l m S T}, Shows l S → Shows m T → (∀ x y, ¬(S x y ∧ T x y)) →
    ¬cap < l.length + m.length →
      (∀ x y, S x y ∨ T x y ↔ f (gdiRgnPtIn a x y) (gdiRgnPtIn b x y)) →
        Combines f a b cap (l ++ m) :=
    fun {f l m} _ _ shows shows' apart fits same => combine (shows.append shows' apart) (by
      rw [length_append, Int.natCast_add]
      exact (Int.not_lt.mp fits).trans (le_max_left ..)) same
  refine ⟨fun out ran => ?_, fun out ran => ?_, fun out ran => ?_, fun out ran => ?_⟩
  · obtain ⟨shows, fits⟩ := intersect_shows valid.shows valid' ran
    exact combine shows fits fun x y => by simp [← ptIn_iff]
  · obtain ⟨shows, fits⟩ := subtract_shows valid.shows valid' ran
    exact combine shows (fits.trans (le_max_left ..)) fun x y => by simp [← ptIn_iff]
  · obtain ⟨extra, carved, last⟩ := Option.bind_eq_some_iff.mp ran
    obtain ⟨fits, same⟩ := Option.ite_none_left_eq_some.mp last
    cases same
    have shows := (subtract_shows valid'.shows valid carved).1
    refine joined valid.shows shows (fun x y both => both.2.2 both.1) fits fun x y => ?_
    simp only [← ptIn_iff]
    cases gdiRgnPtIn a x y <;> simp
  · obtain ⟨ab, carved, rest⟩ := Option.bind_eq_some_iff.mp ran
    obtain ⟨ba, carved', last⟩ := Option.bind_eq_some_iff.mp rest
    obtain ⟨fits, same⟩ := Option.ite_none_left_eq_some.mp last
    cases same
    have shows := (subtract_shows valid.shows valid' carved).1
    have shows' := (subtract_shows valid'.shows valid carved').1
    refine joined shows shows' (fun x y both => both.2.2 both.1.1) fits fun x y => ?_
    simp only [← ptIn_iff]
    cases gdiRgnPtIn a x y <;> simp

theorem region_combination_exact_band : Combines (· && !·) [⟨0, 0, 3, 3⟩] [⟨1, 1, 2, 2⟩] 4
    [⟨0, 0, 3, 1⟩, ⟨0, 2, 3, 3⟩, ⟨0, 1, 1, 2⟩, ⟨2, 1, 3, 2⟩] := by
  have valid : ∀ r : GdiRgnRect, r.Proper → Valid [r] :=
    fun r proper => ⟨by simpa using proper, pairwise_singleton ..⟩
  exact (region_combination_exact (valid _ (by decide)) (valid _ (by decide)) 4).2.1 _ rfl

/-- No piece is written, so a negative bound is not looked at. -/
theorem intersect_ignores_cap : Valid [] ∧ gdiRgnIntersect [] [] (-1) = some [] ∧
    ¬(([] : List GdiRgnRect).length : Int) ≤ -1 :=
  ⟨⟨nofun, .nil⟩, rfl, by decide⟩

end DuetOS.Gdi
