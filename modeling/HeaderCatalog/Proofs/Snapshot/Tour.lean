import HeaderCatalog.Proofs.Snapshot.Worklist
import Mathlib.Data.List.Lex

/-!
# The tour of a walk

A path says at which places among the children one goes down from a cursor (`descendant?`). A walk is a tour of the
paths below the cursor where it starts (`IsTour`). It comes to them in their lexicographic order: to none of them
twice, but to a cursor on every path that leads to it. It passes over what lies below a cursor answered with `next`,
and over all that comes after one answered with `leave`, and over nothing else (`PassedOver`).

A tour that is under way (`UnderWay`) has paths ahead of it. They come after those on the tour, none lies below
another, and every path that is neither on the tour nor passed over lies below one of them. Each answer keeps this
(`UnderWay.leave`, `UnderWay.next`, `UnderWay.descend`), so runs of the worklist do (`OnTour.steps`), and where nothing
is ahead the tour is complete (`UnderWay.isTour`).
-/

namespace HeaderCatalog

namespace Snapshot

open Relation
open Worklist (Step Steps)

variable {s : Snapshot} {σ : Type} {visitor : σ → CursorId → Visit × σ}

/-! ## Paths -/

/-- The child of a cursor at a place. -/
def child? (s : Snapshot) (id : CursorId) (i : Nat) : Option CursorId := (s.cursor? id).bind (·.children[i]?)

/-- The cursor at the end of a path of places. -/
def descendant? (s : Snapshot) (start : CursorId) (path : List Nat) : Option CursorId := path.foldlM s.child? start

theorem child?_eq {id : CursorId} {c : CursorNode} (hc : s.cursor id = .ok c) (i : Nat) :
    s.child? id i = c.children[i]? := by
  rw [child?, cursor?, cursor_eq_ok_iff.mp hc, Option.bind_some]

theorem descendant?_append {start : CursorId} {path rest : List Nat} :
    s.descendant? start (path ++ rest) = (s.descendant? start path).bind fun id => s.descendant? id rest :=
  List.foldlM_append

theorem descendant?_cons {start : CursorId} {i : Nat} {path : List Nat} :
    s.descendant? start (i :: path) = (s.child? start i).bind fun id => s.descendant? id path :=
  List.foldlM_cons

theorem descendant?_concat {start id : CursorId} {path : List Nat} (h : s.descendant? start path = some id) (i : Nat) :
    s.descendant? start (path ++ [i]) = s.child? id i := by
  rw [descendant?_append, h, Option.bind_some, descendant?_cons]
  exact Option.bind_fun_some _

/-- A path that begins another comes before it. -/
theorem lt_of_begins {path later : List Nat} (h : path <+: later) (hne : path ≠ later) : path < later := by
  obtain ⟨rest, rfl⟩ := h
  cases rest with
  | nil => exact absurd (List.append_nil path).symm hne
  | cons i rest =>
    have h : path ++ [] < path ++ i :: rest := List.append_left_lt (List.nil_lt_cons i rest)
    rwa [List.append_nil] at h

/-- What lies below a path comes before all that the path comes before and does not begin. -/
theorem append_lt {path later : List Nat} (h : path < later) (hbegins : ¬ path <+: later) (rest : List Nat) :
    path ++ rest < later := by
  induction path generalizing later with
  | nil => exact absurd List.nil_prefix hbegins
  | cons i path ih =>
    cases later with
    | nil => exact absurd h (List.not_lt_nil _)
    | cons j later =>
      rcases List.cons_lt_cons_iff.mp h with hij | ⟨rfl, hlt⟩
      · exact List.cons_lt_cons_iff.mpr (.inl hij)
      · have hbegins' : ¬ path <+: later := fun h => hbegins (List.cons_prefix_cons.mpr ⟨rfl, h⟩)
        exact List.cons_lt_cons_iff.mpr (.inr ⟨rfl, ih hlt hbegins'⟩)

end Snapshot

/-- The later paths that are passed over for an answer on a path. -/
def Visit.PassesOver (path later : List Nat) : Visit → Prop
  | .leave => path < later
  | .next => path <+: later ∧ path ≠ later
  | .descend => False

theorem Visit.PassesOver.lt {answer : Visit} {path later : List Nat} (h : answer.PassesOver path later) :
    path < later := by
  cases answer with
  | leave => exact h
  | next => exact Snapshot.lt_of_begins h.1 h.2
  | descend => exact h.elim

/-- If a path is not passed over for an answer before it, neither is what lies one step below it. -/
theorem Visit.PassesOver.of_concat {answer : Visit} {path later : List Nat} {i : Nat}
    (h : answer.PassesOver path (later ++ [i])) (hlt : path < later) : answer.PassesOver path later := by
  cases answer with
  | leave => exact hlt
  | next => exact ⟨(List.prefix_concat_iff.mp h.1).resolve_left h.2, hlt.ne⟩
  | descend => exact h.elim

namespace Snapshot

open Relation
open Worklist (Step Steps)

/-! ## Tours -/

/-- An answer on a tour, where each cursor shown stands behind its path, passes over a path. -/
def PassedOver (tour : List (List Nat × Shown)) (path : List Nat) : Prop :=
  ∃ stop ∈ tour, stop.2.answer.PassesOver stop.1 path

/-- The cursors below `start` that are shown, each on its path, are those which no answer passes over, in the order of
the paths. -/
structure IsTour (s : Snapshot) (start : CursorId) (tour : List (List Nat × Shown)) : Prop where
  leads : ∀ stop ∈ tour, stop.1 ≠ [] ∧ s.descendant? start stop.1 = some stop.2.cursor
  ordered : tour.Pairwise fun stop later => stop.1 < later.1
  on_iff : ∀ path ≠ [], (s.descendant? start path).isSome →
    ((∃ stop ∈ tour, stop.1 = path) ↔ ¬ PassedOver tour path)

/-- A tour that is under way: what is to be shown lies ahead, each cursor behind its path. -/
structure UnderWay (s : Snapshot) (start : CursorId) (tour : List (List Nat × Shown))
    (ahead : List (List Nat × CursorId)) : Prop where
  leads : ∀ stop ∈ tour, stop.1 ≠ [] ∧ s.descendant? start stop.1 = some stop.2.cursor
  leads_ahead : ∀ next ∈ ahead, next.1 ≠ [] ∧ s.descendant? start next.1 = some next.2
  ordered : tour.Pairwise fun stop later => stop.1 < later.1
  behind : ∀ stop ∈ tour, ∀ next ∈ ahead, stop.1 < next.1
  apart : ahead.Pairwise fun next later => next.1 < later.1 ∧ ¬ next.1 <+: later.1
  open_tour : ∀ stop ∈ tour, ¬ PassedOver tour stop.1
  open_ahead : ∀ next ∈ ahead, ¬ PassedOver tour next.1
  covers : ∀ path ≠ [], (s.descendant? start path).isSome →
    (∃ stop ∈ tour, stop.1 = path) ∨ (∃ next ∈ ahead, next.1 <+: path) ∨ PassedOver tour path

variable {s : Snapshot} {σ : Type} {visitor : σ → CursorId → Visit × σ} {start id : CursorId} {path : List Nat}
  {tour : List (List Nat × Shown)} {ahead ahead' : List (List Nat × CursorId)} {answer : Visit}

theorem passedOver_concat {later : List Nat} :
    PassedOver (tour ++ [(path, ⟨id, answer⟩)]) later ↔ PassedOver tour later ∨ answer.PassesOver path later := by
  simp [PassedOver, or_and_right, exists_or]

/-- With nothing ahead the tour is complete. -/
theorem UnderWay.isTour (h : UnderWay s start tour []) : IsTour s start tour where
  leads := h.leads
  ordered := h.ordered
  on_iff path hne hpath := by
    refine ⟨fun ⟨stop, hstop, heq⟩ => heq ▸ h.open_tour stop hstop, fun hopen => ?_⟩
    rcases h.covers path hne hpath with hon | ⟨next, hnext, -⟩ | hover
    · exact hon
    · cases hnext
    · exact absurd hover hopen

/-! ## Steps of a tour -/

/-- The first cursor ahead is shown, and the answer leaves others ahead: all later, and of those that were below it or
ahead as many as the answer does not pass over. -/
theorem UnderWay.shows (h : UnderWay s start tour ((path, id) :: ahead))
    (hleads : ∀ next ∈ ahead', next.1 ≠ [] ∧ s.descendant? start next.1 = some next.2)
    (hlater : ∀ next ∈ ahead', path < next.1)
    (hapart : ahead'.Pairwise fun next later => next.1 < later.1 ∧ ¬ next.1 <+: later.1)
    (hopen : ∀ next ∈ ahead', ¬ PassedOver tour next.1 ∧ ¬ answer.PassesOver path next.1)
    (hcovers : ∀ other, (s.descendant? start other).isSome → other ≠ path →
      (path <+: other ∨ ∃ next ∈ ahead, next.1 <+: other) →
        (∃ next ∈ ahead', next.1 <+: other) ∨ answer.PassesOver path other) :
    UnderWay s start (tour ++ [(path, ⟨id, answer⟩)]) ahead' where
  leads stop hstop := by
    rcases List.mem_append.mp hstop with hstop | hstop
    · exact h.leads stop hstop
    · obtain rfl := List.mem_singleton.mp hstop
      exact h.leads_ahead _ List.mem_cons_self
  leads_ahead := hleads
  ordered := by
    refine List.pairwise_append.mpr ⟨h.ordered, List.pairwise_singleton _ _, fun stop hstop last hlast => ?_⟩
    obtain rfl := List.mem_singleton.mp hlast
    exact h.behind stop hstop _ List.mem_cons_self
  behind stop hstop next hnext := by
    rcases List.mem_append.mp hstop with hstop | hstop
    · exact (h.behind stop hstop _ List.mem_cons_self).trans (hlater next hnext)
    · obtain rfl := List.mem_singleton.mp hstop
      exact hlater next hnext
  apart := hapart
  open_tour stop hstop hover := by
    -- what is passed over comes later, so the new answer passes over no path on the tour
    rcases List.mem_append.mp hstop with hstop | hstop
    · rcases passedOver_concat.mp hover with hover | hover
      · exact h.open_tour stop hstop hover
      · exact lt_asymm hover.lt (h.behind stop hstop _ List.mem_cons_self)
    · obtain rfl := List.mem_singleton.mp hstop
      rcases passedOver_concat.mp hover with hover | hover
      · exact h.open_ahead _ List.mem_cons_self hover
      · exact lt_irrefl _ hover.lt
  open_ahead next hnext hover := by
    rcases passedOver_concat.mp hover with hover | hover
    · exact (hopen next hnext).1 hover
    · exact (hopen next hnext).2 hover
  covers other hne hother := by
    rcases h.covers other hne hother with ⟨stop, hstop, heq⟩ | hahead | hover
    · exact .inl ⟨stop, List.mem_append_left _ hstop, heq⟩
    · by_cases heq : other = path
      · exact .inl ⟨_, List.mem_append_right _ (List.mem_singleton_self _), heq.symm⟩
      · rcases hcovers other hother heq (by simpa using hahead) with hahead' | hover
        · exact .inr (.inl hahead')
        · exact .inr (.inr (passedOver_concat.mpr (.inr hover)))
    · exact .inr (.inr (passedOver_concat.mpr (.inl hover)))

/-- An answer that ends the walk passes over everything ahead. -/
theorem UnderWay.leave (h : UnderWay s start tour ((path, id) :: ahead)) :
    UnderWay s start (tour ++ [(path, ⟨id, .leave⟩)]) [] := by
  refine h.shows (by simp) (by simp) .nil (by simp) fun other _ hne hbelow => .inr ?_
  rcases hbelow with hbegins | ⟨next, hnext, hbegins⟩
  · exact lt_of_begins hbegins hne.symm
  · have hlt := ((List.pairwise_cons.mp h.apart).1 next hnext).1
    by_cases heq : next.1 = other
    · exact heq ▸ hlt
    · exact hlt.trans (lt_of_begins hbegins heq)

/-- An answer that goes on passes over what is below the cursor shown. -/
theorem UnderWay.next (h : UnderWay s start tour ((path, id) :: ahead)) :
    UnderWay s start (tour ++ [(path, ⟨id, .next⟩)]) ahead := by
  have hfirst := (List.pairwise_cons.mp h.apart).1
  refine h.shows (fun next hnext => h.leads_ahead next (List.mem_cons_of_mem _ hnext))
    (fun next hnext => (hfirst next hnext).1) (List.pairwise_cons.mp h.apart).2
    (fun next hnext => ⟨h.open_ahead next (List.mem_cons_of_mem _ hnext), fun hover => (hfirst next hnext).2 hover.1⟩)
    fun other _ hne hbelow => ?_
  rcases hbelow with hbegins | hahead
  · exact .inr ⟨hbegins, hne.symm⟩
  · exact .inl hahead

/-- The children of a cursor on a path, each behind its own path. -/
def located (path : List Nat) (ids : List CursorId) : List (List Nat × CursorId) :=
  ids.zipIdx.map fun (id, i) => (path ++ [i], id)

theorem map_snd_located {ids : List CursorId} : (located path ids).map Prod.snd = ids := by
  simp [located, Function.comp_def]

theorem mem_located_iff {ids : List CursorId} {next : List Nat × CursorId} :
    next ∈ located path ids ↔ ∃ i, ids[i]? = some next.2 ∧ path ++ [i] = next.1 := by
  simp only [located, List.mem_map, List.mem_zipIdx_iff_getElem?, Prod.exists, Prod.ext_iff]
  constructor
  · rintro ⟨id, i, hid, hpath, rfl⟩
    exact ⟨i, hid, hpath⟩
  · rintro ⟨i, hid, hpath⟩
    exact ⟨next.2, i, hid, hpath, rfl⟩

theorem pairwise_located {ids : List CursorId} :
    (located path ids).Pairwise fun next later => next.1 < later.1 ∧ ¬ next.1 <+: later.1 := by
  have hordered : ids.zipIdx.Pairwise fun next later => next.2 < later.2 := by
    have h := List.pairwise_lt_range' (s := 0) (n := ids.length)
    rw [← List.zipIdx_map_snd] at h
    exact List.pairwise_map.mp h
  refine List.pairwise_map.mpr (hordered.imp fun {next later} hlt => ?_)
  obtain ⟨id, i⟩ := next
  obtain ⟨id', j⟩ := later
  refine ⟨List.append_left_lt (List.cons_lt_cons_iff.mpr (.inl hlt)), fun hbegins => ?_⟩
  have heq := (List.cons_prefix_cons.mp ((List.prefix_append_right_inj path).mp hbegins)).1
  exact absurd heq (Nat.ne_of_lt hlt)

/-- The children of a cursor on a path are on theirs. -/
theorem located_leads {c : CursorNode} (hpath : s.descendant? start path = some id) (hc : s.cursor id = .ok c)
    {next : List Nat × CursorId} (hnext : next ∈ located path c.children) :
    next.1 ≠ [] ∧ s.descendant? start next.1 = some next.2 := by
  obtain ⟨i, hi, heq⟩ := mem_located_iff.mp hnext
  refine ⟨heq ▸ by simp, ?_⟩
  rw [← heq, descendant?_concat hpath, child?_eq hc, hi]

/-- A longer path that leads anywhere leads through a child. -/
theorem exists_located {c : CursorNode} (hpath : s.descendant? start path = some id) (hc : s.cursor id = .ok c) {i : Nat}
    {rest : List Nat} (h : (s.descendant? start (path ++ i :: rest)).isSome) :
    ∃ next ∈ located path c.children, next.1 <+: path ++ i :: rest := by
  rw [List.append_cons] at h ⊢
  rw [descendant?_append, descendant?_concat hpath, child?_eq hc] at h
  cases hi : c.children[i]? with
  | none => rw [hi] at h; cases h
  | some child => exact ⟨(path ++ [i], child), mem_located_iff.mpr ⟨i, hi, rfl⟩, List.prefix_append _ _⟩

/-- An answer that goes down passes over nothing, and puts the children ahead. -/
theorem UnderWay.descend (h : UnderWay s start tour ((path, id) :: ahead)) {c : CursorNode} (hc : s.cursor id = .ok c) :
    UnderWay s start (tour ++ [(path, ⟨id, .descend⟩)]) (located path c.children ++ ahead) := by
  have hpath := (h.leads_ahead _ List.mem_cons_self).2
  have hfirst := (List.pairwise_cons.mp h.apart).1
  refine h.shows (fun next hnext => ?_) (fun next hnext => ?_) ?_ (fun next hnext => ⟨?_, False.elim⟩)
    fun other hother hne hbelow => .inl ?_
  · rcases List.mem_append.mp hnext with hnext | hnext
    · exact located_leads hpath hc hnext
    · exact h.leads_ahead next (List.mem_cons_of_mem _ hnext)
  · rcases List.mem_append.mp hnext with hnext | hnext
    · obtain ⟨i, -, heq⟩ := mem_located_iff.mp hnext
      exact heq ▸ lt_of_begins (List.prefix_append _ _) (by simp)
    · exact (hfirst next hnext).1
  · refine List.pairwise_append.mpr
      ⟨pairwise_located, (List.pairwise_cons.mp h.apart).2, fun next hnext later hlater => ?_⟩
    -- the path comes before what was ahead and does not begin it, so its children come before it, too
    obtain ⟨i, -, heq⟩ := mem_located_iff.mp hnext
    obtain ⟨hlt, hbegins⟩ := hfirst later hlater
    exact heq ▸ ⟨append_lt hlt hbegins [i], fun h => hbegins ((List.prefix_append _ _).trans h)⟩
  · rcases List.mem_append.mp hnext with hnext | hnext
    · obtain ⟨i, -, heq⟩ := mem_located_iff.mp hnext
      -- what passes over a child from before its parent passes over the parent
      rw [← heq]
      rintro ⟨stop, hstop, hover⟩
      exact h.open_ahead _ List.mem_cons_self
        ⟨stop, hstop, hover.of_concat (h.behind stop hstop _ List.mem_cons_self)⟩
    · exact h.open_ahead next (List.mem_cons_of_mem _ hnext)
  · rcases hbelow with ⟨rest, rfl⟩ | ⟨next, hnext, hbegins⟩
    · cases rest with
      | nil => exact absurd (List.append_nil path) hne
      | cons i rest =>
        obtain ⟨next, hnext, hbegins⟩ := exists_located hpath hc hother
        exact ⟨next, List.mem_append_left _ hnext, hbegins⟩
    · exact ⟨next, List.mem_append_right _ hnext, hbegins⟩

/-! ## Runs -/

/-- What a worklist shows is a tour, and what it has yet to show lies ahead of it. -/
def OnTour (s : Snapshot) (start : CursorId) (w : Worklist σ) : Prop :=
  ∃ tour ahead, UnderWay s start tour ahead ∧ tour.map Prod.snd = w.shown ∧ ahead.map Prod.snd = w.todo

/-- A walk begins with the children ahead. -/
theorem onTour_children {c : CursorNode} (hc : s.cursor start = .ok c) (state : σ) :
    OnTour s start ⟨c.children, [], state⟩ := by
  refine ⟨[], located [] c.children, ?_, rfl, map_snd_located⟩
  exact {
    leads := by simp
    leads_ahead := fun next hnext => located_leads rfl hc hnext
    ordered := .nil
    behind := by simp
    apart := pairwise_located
    open_tour := by simp
    open_ahead := by simp [PassedOver]
    covers := fun path hne hpath => by
      cases path with
      | nil => exact absurd rfl hne
      | cons i rest => exact .inr (.inl (exists_located rfl hc hpath)) }

/-- A step goes on with the tour. -/
theorem OnTour.step {w w' : Worklist σ} (h : OnTour s start w) (hstep : Step s visitor w w') : OnTour s start w' := by
  obtain ⟨tour, ahead, h, hshown, htodo⟩ := h
  cases hstep with
  | leave =>
    obtain ⟨⟨path, _⟩, rest, rfl, rfl, -⟩ := List.map_eq_cons_iff.mp htodo
    exact ⟨_, _, h.leave, by simp [hshown], rfl⟩
  | next =>
    obtain ⟨⟨path, _⟩, rest, rfl, rfl, hrest⟩ := List.map_eq_cons_iff.mp htodo
    exact ⟨_, _, h.next, by simp [hshown], hrest⟩
  | descend _ hc =>
    obtain ⟨⟨path, _⟩, rest, rfl, rfl, hrest⟩ := List.map_eq_cons_iff.mp htodo
    exact ⟨_, _, h.descend hc, by simp [hshown], by rw [List.map_append, map_snd_located, hrest]⟩

theorem OnTour.steps {w w' : Worklist σ} (h : OnTour s start w) (hsteps : Steps s visitor w w') :
    OnTour s start w' := by
  induction hsteps with
  | refl => exact h
  | tail _ hstep ih => exact ih.step hstep

/-- A run that comes to an empty list has shown a complete tour. -/
theorem exists_isTour {c : CursorNode} (hc : s.cursor start = .ok c) {state final : σ} {shown : List Shown}
    (hsteps : Steps s visitor ⟨c.children, [], state⟩ ⟨[], shown, final⟩) :
    ∃ tour, IsTour s start tour ∧ tour.map Prod.snd = shown := by
  obtain ⟨tour, ahead, h, hshown, htodo⟩ := (onTour_children hc state).steps hsteps
  obtain rfl := List.map_eq_nil_iff.mp htodo
  exact ⟨tour, h.isTour, hshown⟩

/-- Nothing comes after an answer that ends the walk. -/
theorem IsTour.eq_nil_of_leave (h : IsTour s start tour) {before after : List Shown} {last : Shown}
    (heq : tour.map Prod.snd = before ++ last :: after) (hleave : last.answer = .leave) : after = [] := by
  obtain ⟨front, back, rfl, -, hback⟩ := List.map_eq_append_iff.mp heq
  obtain ⟨stop, rest, rfl, rfl, rfl⟩ := List.map_eq_cons_iff.mp hback
  cases rest with
  | nil => rfl
  | cons later rest =>
    have hlater : later ∈ front ++ stop :: later :: rest := by simp
    have hordered := (List.pairwise_append.mp h.ordered).2.1
    have hlt : stop.1 < later.1 := (List.pairwise_cons.mp hordered).1 later List.mem_cons_self
    obtain ⟨hne, hleads⟩ := h.leads later hlater
    have hopen := (h.on_iff later.1 hne (by simp [hleads])).mp ⟨later, hlater, rfl⟩
    refine absurd ⟨stop, by simp, ?_⟩ hopen
    rw [hleave]
    exact hlt

/-- **A walk is a run of its worklist.** In a sound snapshot every walk ends. Whatever the visitor answers and
remembers, it is shown what the steps from the children of the start show; every run of such steps goes on to the same
end. This is a tour: nothing is left out but what lies below a cursor answered with `next` and what comes after one
answered with `leave`, where the walk ends, and a cursor is shown once for each path. A visitor that always answers
with `next` is shown the children. -/
theorem walk_follows_worklist (hvalid : s.validate = .ok ()) (hstart : s.hasCursor start) :
    ∃ c, s.cursor start = .ok c ∧
      (∀ {σ : Type} (visitor : σ → CursorId → Visit × σ) (state : σ), ∃ tour final,
        s.walk visitor start state = .ok final ∧
          s.walk (recorded visitor) start ([], state) = .ok (tour.map Prod.snd, final) ∧
          Steps s visitor ⟨c.children, [], state⟩ ⟨[], tour.map Prod.snd, final⟩ ∧
          (∀ w, Steps s visitor ⟨c.children, [], state⟩ w → Steps s visitor w ⟨[], tour.map Prod.snd, final⟩) ∧
          IsTour s start tour ∧
          (∀ before last after, tour.map Prod.snd = before ++ last :: after → last.answer = .leave → after = []) ∧
          ((∀ state id, (visitor state id).1 = .next) → tour.map Prod.snd = c.children.map (⟨·, .next⟩))) ∧
      s.walk (fun out id => (.next, out ++ [id])) start [] = .ok c.children := by
  have hsound := sound_of_validate hvalid
  obtain ⟨c, hc⟩ := exists_cursor hstart
  refine ⟨c, hc, fun visitor state => ?_, ?_⟩
  · obtain ⟨shown, final, hwalk, hrecorded, hsteps⟩ := hsound.exists_steps visitor hc state
    obtain ⟨tour, htour, rfl⟩ := exists_isTour hc hsteps
    refine ⟨tour, final, hwalk, hrecorded, hsteps, fun w => steps_of_steps hsteps, htour,
      fun _ _ _ => htour.eq_nil_of_leave, fun hnext => ?_⟩
    have hchildren := (hsound.walk_of_next hnext hc state).2
    exact congrArg Prod.fst (Except.ok.inj (hrecorded.symm.trans hchildren))
  · rw [(hsound.walk_of_next (fun _ _ => rfl) hc []).1]
    simp [← List.flatMap_def]

namespace Example

/-- Three classes that have one property in common, and a fourth. -/
def shared : Snapshot where
  root := .ofNat 0
  cursors := #[
    { CursorNode.blank .translationUnit "" with children := [.ofNat 1, .ofNat 2, .ofNat 3, .ofNat 5] },
    { CursorNode.blank .interfaceDeclaration "A" with children := [.ofNat 4] },
    { CursorNode.blank .interfaceDeclaration "B" with children := [.ofNat 4] },
    { CursorNode.blank .interfaceDeclaration "C" with children := [.ofNat 4] },
    CursorNode.blank .propertyDeclaration "p",
    CursorNode.blank .interfaceDeclaration "D"]
  types := #[]

/-- A visitor that ends the walk when it is shown a cursor again, and does not go down from the second class. -/
def wary (seen : List CursorId) (id : CursorId) : Visit × List CursorId :=
  (if id ∈ seen then .leave else if id = .ofNat 2 then .next else .descend, id :: seen)

/-- What it is shown: the property twice, on two of its three paths, and the fourth class not at all. -/
def waryShown : List Shown :=
  [⟨.ofNat 1, .descend⟩, ⟨.ofNat 4, .descend⟩, ⟨.ofNat 2, .next⟩, ⟨.ofNat 3, .descend⟩, ⟨.ofNat 4, .leave⟩]

/-- Two levels down the walk ends, as its worklist does. -/
theorem walk_shared : shared.validate = .ok () ∧ shared.hasCursor (.ofNat 0) ∧
    ∃ tour final, shared.walk (recorded wary) (.ofNat 0) ([], []) = .ok (tour.map Prod.snd, final) ∧
      Steps shared wary ⟨[.ofNat 1, .ofNat 2, .ofNat 3, .ofNat 5], [], []⟩ ⟨[], waryShown, final⟩ ∧
      IsTour shared (.ofNat 0) tour ∧ tour.map Prod.snd = waryShown := by
  obtain ⟨c, hc, h, -⟩ := @walk_follows_worklist shared (.ofNat 0) rfl rfl
  obtain rfl : shared.cursors[0] = c := Except.ok.inj hc
  obtain ⟨tour, final, -, hrecorded, hsteps, -, htour, -⟩ := h wary []
  have hrun : shared.walk (recorded wary) (.ofNat 0) ([], []) =
      .ok (waryShown, [.ofNat 4, .ofNat 3, .ofNat 2, .ofNat 4, .ofNat 1]) := rfl
  have hshown : tour.map Prod.snd = waryShown := congrArg Prod.fst (Except.ok.inj (hrecorded.symm.trans hrun))
  exact ⟨rfl, rfl, tour, final, hrecorded, hshown ▸ hsteps, htour, hshown⟩

end Example

end Snapshot

end HeaderCatalog
