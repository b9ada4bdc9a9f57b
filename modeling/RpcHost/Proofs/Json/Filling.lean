import Mathlib.Data.List.Nodup
import RpcHost.Json.Record
import RpcHost.Proofs.Entries

/-!
# Filling the slots of a record

A field may take a value as it stands, take something else in its place, or refuse it. `filled`
gives the slots of a record whose fields do so, from a value. The slots of `slots` are those where
each field takes what its kind accepts (`slots_eq_filled`). Members that come one after the other
fill the same slots as the object that they make: `settled_nil_eq_filled`.
-/

namespace RpcHost
namespace Json

variable {α β : Type}

/-! ## All or nothing -/

theorem mapM_congr {g h : α → Option β} {l : List α} (hgh : ∀ a ∈ l, g a = h a) :
    l.mapM g = l.mapM h := by
  induction l with
  | nil => rfl
  | cons a l ih =>
      rw [List.mapM_cons, List.mapM_cons, hgh a List.mem_cons_self,
        ih fun b hb => hgh b (List.mem_cons_of_mem a hb)]

theorem mapM_eq_none_of_mem {g : α → Option β} {l : List α} {a : α} (ha : a ∈ l)
    (hg : g a = none) : l.mapM g = none := by
  induction l with
  | nil => cases ha
  | cons b l ih =>
      rw [List.mapM_cons]
      rcases List.mem_cons.1 ha with rfl | hrest
      · simp [hg]
      · cases g b <;> simp [ih hrest]

theorem mapM_ite (p : α → Bool) (g : α → β) (l : List α) :
    (l.mapM fun a => if p a then some (g a) else none) =
      if l.all p then some (l.map g) else none := by
  induction l with
  | nil => rfl
  | cons a l ih =>
      rw [List.mapM_cons, ih]
      cases hp : p a <;> cases hl : l.all p <;> simp [hp, hl]

/-! ## Fields and their slots -/

/-- A field of this kind takes what it accepts. -/
def FieldKind.take (kind : FieldKind) (v : Value) : Option Value :=
  if kind.accepts v then some v else none

/-- The slot of a field, from what stands for the field, if anything does. -/
def Field.fill (f : Field) (take : Value → Option Value) : Option Value → Option (Option Value)
  | some v => (take v).map some
  | none => if f.required then none else some none

def filled (take : Field → Value → Option Value) (layout : Layout) (v : Value) : Option Slots :=
  (pick layout v).bind fun found => (layout.zip found).mapM fun p => p.1.fill (take p.1) p.2

variable {take : Field → Value → Option Value} {layout : Layout}

@[simp] theorem Field.fill_some (f : Field) (take : Value → Option Value) (v : Value) :
    f.fill take (some v) = (take v).map some :=
  rfl

@[simp] theorem Field.fill_none (f : Field) (take : Value → Option Value) :
    f.fill take none = if f.required then none else some none :=
  rfl

theorem Field.fill_take (f : Field) (o : Option Value) :
    f.fill f.kind.take o = if f.admits o then some o else none := by
  cases o with
  | none => cases hrequired : f.required <;> simp [admits, hrequired]
  | some v =>
      cases haccepts : f.kind.accepts v <;> simp [admits, FieldKind.take, haccepts]

@[simp] theorem FieldKind.accepts_any (v : Value) : FieldKind.any.accepts v = true := by
  cases v <;> rfl

@[simp] theorem FieldKind.accepts_string (s : String) :
    FieldKind.text.accepts (.string s) = true :=
  rfl

@[simp] theorem Field.admits_some (f : Field) (v : Value) : f.admits (some v) = f.kind.accepts v :=
  rfl

@[simp] theorem Field.admits_optional (name : String) (o : Option Value) :
    (Field.mk name .any false).admits o = true := by
  cases o <;> simp [admits]

theorem length_of_pick {v : Value} {found : Slots} (h : pick layout v = some found) :
    found.length = layout.length := by
  cases v with
  | object members =>
      cases h
      simp
  | array items =>
      by_cases hlength : items.length ≤ layout.length
      · simp only [pick, hlength, if_true, Option.some.injEq] at h
        subst h
        simp
        omega
      · simp [pick, hlength] at h
  | _ => cases h

theorem slots_eq_filled (layout : Layout) (v : Value) :
    slots layout v = filled (fun f => f.kind.take) layout v := by
  cases hpick : pick layout v with
  | none => simp [slots, filled, hpick]
  | some found =>
      have hlength := length_of_pick hpick
      have hfound : (layout.zip found).map (·.2) = found :=
        List.map_snd_zip (Nat.le_of_eq hlength)
      have hfill := mapM_ite (fun p : Field × Option Value => p.1.admits p.2) (·.2)
        (layout.zip found)
      simp only [slots, filled, hpick, Option.bind_some, Field.fill_take, hfill, hfound]
      rw [Option.filter_some]

/-! ## Arrays -/

theorem filled_array (take : Field → Value → Option Value) (layout : Layout) (vs : List Value) :
    filled take layout (.array vs) =
      if vs.length ≤ layout.length then
        (layout.zip (vs.map some ++ List.replicate (layout.length - vs.length) none)).mapM
          fun p => p.1.fill (take p.1) p.2
      else none := by
  by_cases hlength : vs.length ≤ layout.length <;> simp [filled, pick, hlength]

theorem filled_array_nil (take : Field → Value → Option Value) (layout : Layout) :
    filled take layout (.array []) =
      if layout.all (!·.required) then some (List.replicate layout.length none) else none := by
  simp only [filled_array, List.length_nil, Nat.zero_le, if_true, List.map_nil, List.nil_append,
    Nat.sub_zero]
  induction layout with
  | nil => rfl
  | cons f layout ih =>
      simp only [List.length_cons, List.replicate_succ, List.zip_cons_cons, List.mapM_cons, ih,
        Field.fill_none]
      cases hrequired : f.required <;> cases hall : layout.all (!·.required) <;>
        simp [hrequired, hall]

theorem filled_array_cons (f : Field) (v : Value) (vs : List Value) :
    filled take (f :: layout) (.array (v :: vs)) =
      (take f v).bind fun w => (filled take layout (.array vs)).map (some w :: ·) := by
  rw [filled_array, filled_array]
  simp only [List.length_cons, Nat.add_le_add_iff_right, List.map_cons, List.cons_append,
    List.zip_cons_cons, List.mapM_cons, Field.fill_some, Nat.add_sub_add_right]
  by_cases hlength : vs.length ≤ layout.length
  · rw [if_pos hlength, if_pos hlength]
    cases take f v with
    | none => rfl
    | some w => exact Option.map_eq_bind.symm
  · rw [if_neg hlength, if_neg hlength]
    cases take f v <;> rfl

theorem filled_array_too_long (v : Value) (vs : List Value) :
    filled take [] (.array (v :: vs)) = none :=
  rfl

/-! ## Objects -/

theorem filled_object (members : Members) :
    filled take layout (.object members) =
      layout.mapM fun f => f.fill (take f) (Entries.find? f.name members) := by
  have hpick : filled take layout (.object members) =
      (layout.zip (layout.map fun f => Entries.find? f.name members)).mapM
        fun p => p.1.fill (take p.1) p.2 := rfl
  rw [hpick, ← List.map_prod_left_eq_zip, List.mapM_map]
  rfl

/-- The slots when some fields have taken something already, latest first, and some members are
still to come. -/
def settled (take : Field → Value → Option Value) (layout : Layout)
    (taken ms : List (String × Value)) : Option Slots :=
  layout.mapM fun f =>
    match Entries.find? f.name taken with
    | some w => some (some w)
    | none => f.fill (take f) (Entries.find? f.name ms)

/-- The slots that are filled so far. -/
def slotsOf (layout : Layout) (taken : List (String × Value)) : Slots :=
  layout.map fun f => Entries.find? f.name taken

variable {taken ms : List (String × Value)} {key : String} {v : Value}

theorem settled_cons_of_not_mem (h : ∀ f ∈ layout, f.name ≠ key) :
    settled take layout taken ((key, v) :: ms) = settled take layout taken ms := by
  refine mapM_congr ?_
  intro f hf
  simp [h f hf]

theorem settled_cons_of_refused {f : Field} (hf : f ∈ layout) (hkey : f.name = key)
    (hnone : Entries.find? f.name taken = none) (htake : take f v = none) :
    settled take layout taken ((key, v) :: ms) = none := by
  subst hkey
  refine mapM_eq_none_of_mem hf ?_
  simp [hnone, htake]

theorem settled_cons_of_taken (hnodup : (layout.map (·.name)).Nodup) {f : Field} (hf : f ∈ layout)
    (hkey : f.name = key) (hnone : Entries.find? f.name taken = none) {w : Value}
    (htake : take f v = some w) :
    settled take layout taken ((key, v) :: ms) = settled take layout ((key, w) :: taken) ms := by
  subst hkey
  refine mapM_congr ?_
  intro g hg
  -- Only one field has the name, so no other field sees what was taken.
  by_cases hname : g.name = f.name
  · have hsame : g = f := List.inj_on_of_nodup_map hnodup hg hf hname
    subst hsame
    simp [hnone, htake]
  · simp [hname]

theorem settled_nil (taken : List (String × Value)) :
    settled take layout taken [] =
      if complete layout (slotsOf layout taken) then some (slotsOf layout taken) else none := by
  have hfield : ∀ f : Field,
      (match Entries.find? f.name taken with
        | some w => some (some w)
        | none => f.fill (take f) none) =
      if (Entries.find? f.name taken).isSome || !f.required then
        some (Entries.find? f.name taken)
      else none := by
    intro f
    cases Entries.find? f.name taken <;> cases hrequired : f.required <;>
      simp [hrequired]
  have hcomplete : ∀ l : Layout, complete l (slotsOf l taken) =
      l.all fun f => (Entries.find? f.name taken).isSome || !f.required := by
    intro l
    induction l with
    | nil => rfl
    | cons f l ih =>
        rw [List.all_cons, ← ih]
        rfl
  -- No member is left, so a required field without a value is missing for good.
  rw [hcomplete]
  exact (mapM_congr fun f _ => hfield f).trans (mapM_ite _ _ layout)

theorem settled_nil_eq_filled (hcounts : ∀ f ∈ layout, (Entries.keys ms).count f.name ≤ 1) :
    settled take layout [] ms = filled take layout (.object (Entries.ofList ms)) := by
  rw [filled_object]
  refine mapM_congr ?_
  intro f hf
  rw [Entries.find?_ofList_of_count (hcounts f hf)]
  rfl

end Json
end RpcHost
