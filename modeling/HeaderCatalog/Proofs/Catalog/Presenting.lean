import HeaderCatalog.Proofs.Catalog.Collecting

/-!
# Which classes a catalogue presents

A child of the root offers a class if it defines one in the framework that the options name, if they name one
(`Options.Selects`), and the gate lets it pass. What the findings of an extraction have of classes is what the children
offer, in their order (`foundInterfaces_eq_offered`), and of these the first of each name stands.

* The catalogue of a snapshot that passes the check has the classes that are offered without those that repeat a name.
  They stand in the order of the children of the root, and only a child that offers a class itself stands in the way of
  a later one (`extract_presents`).
-/

namespace HeaderCatalog

/-- A cursor defines a class, in the framework that the options name if they name one. -/
def Options.Selects (o : Options) (c : CursorNode) : Prop :=
  c.kind = .interfaceDeclaration ∧ c.isDefinition = true ∧
    ∀ name ∈ o.framework?, ∃ file ∈ c.file?, ("/" ++ name ++ ".framework/").toList <:+: file.toList

instance (o : Options) : DecidablePred o.Selects := fun c => inferInstanceAs (Decidable (c.kind = _ ∧ _))

/-- A file lies in the framework if its path has the framework's directory in it. -/
theorem Options.covers_iff {o : Options} {file? : Option String} : o.covers file? = true ↔
    ∀ name ∈ o.framework?, ∃ file ∈ file?, ("/" ++ name ++ ".framework/").toList <:+: file.toList := by
  unfold covers marker?
  cases o.framework? with
  | none => simp
  | some name =>
    cases file? with
    | none => simp
    | some file => simp [Text.occursIn_iff]

namespace Snapshot

variable {s : Snapshot} {o : Options} {root : CursorNode} {n : Nat} {i : Interface}

/-! ## What is offered -/

/-- The classes that the children of the root offer, in their order. -/
def offered (s : Snapshot) (o : Options) (root : CursorNode) : List Interface :=
  ((s.childNodes root).filter o.Selects).filterMap fun c => (passed? (s.interface o.policy c)).map Prod.fst

/-- The child at a place offers a class. -/
def OffersAt (s : Snapshot) (o : Options) (root : CursorNode) (n : Nat) (i : Interface) : Prop :=
  ∃ c, (s.childNodes root)[n]? = some c ∧ o.Selects c ∧ ∃ log, s.interface o.policy c = .ok (.ok (i, log))

/-- The child at a place offers a class, and no child before it offers one of that name. -/
def StandsAt (s : Snapshot) (o : Options) (root : CursorNode) (n : Nat) (i : Interface) : Prop :=
  s.OffersAt o root n i ∧ ∀ (m : Nat) (j : Interface), m < n → s.OffersAt o root m j → j.name ≠ i.name

/-- What a catalogue presents of the children of the root. -/
structure Presents (s : Snapshot) (o : Options) (root : CursorNode) (catalog : Catalog) : Prop where
  framework : catalog.framework? = o.framework?
  platform : catalog.platform = o.platform
  children : List.Forall₂ (fun id c => s.cursor? id = some c) root.children (s.childNodes root)
  decided : ∀ c ∈ s.childNodes root, o.policy.Decides c (s.interface o.policy c)
  interfaces : catalog.interfaces = (s.offered o root).eraseDupsBy fun i j => i.name == j.name
  distinct : (catalog.interfaces.map (·.name)).Nodup
  places : ∃ places : List Nat, places.Pairwise (· < ·) ∧ (∀ n, n ∈ places ↔ ∃ i, s.StandsAt o root n i) ∧
    List.Forall₂ (s.StandsAt o root) places catalog.interfaces

theorem map_fst_passed?_eq_some_iff {x : Except Fault (Except Reason (Interface × List Event))} :
    (passed? x).map Prod.fst = some i ↔ ∃ log, x = .ok (.ok (i, log)) := by
  rw [Option.map_eq_some_iff]
  constructor
  · rintro ⟨⟨i, log⟩, h, rfl⟩
    exact ⟨log, passed?_eq_some_iff.mp h⟩
  · rintro ⟨log, h⟩
    exact ⟨(i, log), passed?_eq_some_iff.mpr h, rfl⟩

/-- A finding is a class exactly if the child offers it. -/
theorem interface?_eq_some_iff {id : CursorId} {c : CursorNode} {f : Finding} (hc : s.cursor id = .ok c)
    (hf : s.finding o id = .ok f) :
    f.interface? = some i ↔ o.Selects c ∧ ∃ log, s.interface o.policy c = .ok (.ok (i, log)) := by
  constructor
  · intro hi
    cases f with
    | interface j log =>
      cases hi
      obtain ⟨c', hc', hkind, hdefinition, hcovers, hinterface⟩ := finding_eq_interface_iff.mp hf
      obtain rfl : c = c' := eq_of_eq_ok hc hc'
      exact ⟨⟨hkind, hdefinition, Options.covers_iff.mp hcovers⟩, log, hinterface⟩
    | _ => cases hi
  · rintro ⟨⟨hkind, hdefinition, hcovers⟩, log, hinterface⟩
    have hfinding : s.finding o id = .ok (.interface i log) :=
      finding_eq_interface_iff.mpr ⟨c, hc, hkind, hdefinition, Options.covers_iff.mpr hcovers, hinterface⟩
    rw [eq_of_eq_ok hf hfinding]
    rfl

/-- The classes that are found are those that are offered. -/
theorem foundInterfaces_eq_offered {found : List Finding} (h : root.children.mapM (s.finding o) = .ok found) :
    foundInterfaces found = s.offered o root := by
  refine filterMap_answers (fun id f hf => ?_) h
  obtain ⟨c, hc, -⟩ := exists_of_bind_eq_ok hf
  refine ⟨c, cursor?_of_cursor hc, fun i => ?_⟩
  rw [interface?_eq_some_iff hc hf, map_fst_passed?_eq_some_iff, decide_eq_true_iff]

/-! ## Where it stands -/

/-- What each child offers, if it offers a class. -/
def offers (s : Snapshot) (o : Options) (root : CursorNode) : List (Option Interface) :=
  (s.childNodes root).map fun c => if o.Selects c then (passed? (s.interface o.policy c)).map Prod.fst else none

theorem offered_eq : s.offered o root = (s.offers o root).filterMap id := by
  rw [offered, offers, List.filterMap_filter, List.filterMap_map]
  simp only [decide_eq_true_iff]
  rfl

theorem getElem?_offers_iff : (s.offers o root)[n]? = some (some i) ↔ s.OffersAt o root n i := by
  rw [offers, List.getElem?_map, Option.map_eq_some_iff]
  refine exists_congr fun c => and_congr_right fun _ => ?_
  rw [Option.ite_none_right_eq_some, map_fst_passed?_eq_some_iff]

theorem firstAt_offers_iff : Interface.FirstAt (s.offers o root) n i ↔ s.StandsAt o root n i := by
  unfold Interface.FirstAt StandsAt
  simp only [getElem?_offers_iff]

/-! ## The catalogue -/

/-- **A catalogue presents what is offered first.** An extraction of a snapshot that passes the check gives, under the
framework and the platform of the options, the classes that the immediate children of the root define, in the
framework if one is named, as far as the gate lets them pass, and of these the first of each name. So they have
different names and stand in the order of the children, and a child that is not selected or does not pass the gate
never stands in the way of another. -/
theorem extract_presents (hvalid : s.validate = .ok ()) (o : Options) : ∃ root catalog log,
    s.cursor? s.root = some root ∧ s.extract o = .ok (catalog, log) ∧ s.Presents o root catalog := by
  have hsound := sound_of_validate hvalid
  obtain ⟨found, hfound, -⟩ := (Renaming.refl s).findings_agree hsound hsound o
  obtain ⟨root, hroot, hchildren⟩ := findings_eq_ok_iff.mp hfound
  have hnodes : List.Forall₂ (fun id c => s.cursor? id = some c) root.children (s.childNodes root) :=
    forall₂_childNodes (hsound.cursorAnswers hroot).child
  have hinterfaces : (Catalog.ofFindings o found).interfaces = Interface.firsts (s.offered o root) := by
    rw [← foundInterfaces_eq_offered hchildren]
    rfl
  refine ⟨root, .ofFindings o found, _, cursor?_of_cursor hroot, extract_of_findings hvalid hfound, ?_⟩
  exact {
    framework := rfl
    platform := rfl
    children := hnodes
    decided := by
      intro c hc
      obtain ⟨id, -, hid⟩ := List.mem_filterMap.mp hc
      exact hsound.decides_interface (cursor_eq_ok_iff.mpr hid) o.policy
    interfaces := by rw [hinterfaces, Interface.firsts_eq_eraseDupsBy]
    distinct := by
      rw [hinterfaces]
      exact Interface.nodup_firsts _
    places := by
      obtain ⟨places, hincreasing, hmem, hplaces⟩ := Interface.exists_places (s.offers o root)
      refine ⟨places, hincreasing, fun n => ?_, ?_⟩
      · simp only [hmem, firstAt_offers_iff]
      · rw [hinterfaces, offered_eq]
        exact hplaces.imp fun n i hi => firstAt_offers_iff.mp hi }

namespace Example

/-- A class that is announced, defined outside the framework, left out by the gate, and then defined twice, behind
another one. -/
def layered : Snapshot where
  root := .ofNat 0
  cursors := #[
    { CursorNode.blank .translationUnit "" with
      children := [.ofNat 1, .ofNat 2, .ofNat 3, .ofNat 4, .ofNat 5, .ofNat 6] },
    { CursorNode.blank .interfaceDeclaration "A" with isDefinition := false, file? := some "/Kit.framework/A.h" },
    { CursorNode.blank .interfaceDeclaration "A" with file? := some "/A.h" },
    { CursorNode.blank .interfaceDeclaration "A" with
      file? := some "/Kit.framework/Old.h", availability := { Availability.blank with alwaysUnavailable := true } },
    { CursorNode.blank .interfaceDeclaration "B" with file? := some "/Kit.framework/B.h", children := [.ofNat 7] },
    { CursorNode.blank .interfaceDeclaration "A" with file? := some "/Kit.framework/A.h" },
    { CursorNode.blank .interfaceDeclaration "A" with file? := some "/Kit.framework/New.h" },
    { CursorNode.blank .interfaceDeclaration "C" with file? := some "/Kit.framework/C.h" }]
  types := #[]

/-- The other class comes first, then the first definition in the framework that passes the gate. -/
theorem layered_presents : ∃ root catalog log, layered.cursor? layered.root = some root ∧
    layered.extract { Options.standard with framework? := some "Kit" } = .ok (catalog, log) ∧
      layered.Presents { Options.standard with framework? := some "Kit" } root catalog :=
  extract_presents rfl { Options.standard with framework? := some "Kit" }

example : (layered.extract { Options.standard with framework? := some "Kit" }).map
    (fun result => result.1.interfaces.map fun i => (i.name, i.file)) =
      .ok [("B", "/Kit.framework/B.h"), ("A", "/Kit.framework/A.h")] := rfl

end Example

end Snapshot

end HeaderCatalog
