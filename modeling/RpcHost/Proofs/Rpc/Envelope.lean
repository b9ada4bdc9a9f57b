import RpcHost.Proofs.Json.Filling
import RpcHost.Proofs.Json.Ordered
import RpcHost.Rpc.Decode

/-!
# What encoded envelopes hold

A record is written from the fields of its layout that are there. No key stands twice in a layout,
so a record has under each key what the field holds (`member?_recordOf`), and its fields are found
in it again (`slots_recordOf`). Each envelope is the record of its fields, and later proofs need not
look at the order of its members.
-/

namespace RpcHost
namespace Rpc

open Json

/-! ## Records -/

variable {layout : Layout} {found : Slots} {key : String}

/-- The members of a record, in the order of its layout. -/
def membersOf (layout : Layout) (found : Slots) : List (String × Value) :=
  (layout.zip found).filterMap fun p => p.2.map fun v => (p.1.name, v)

/-- What the fields of a record hold under a key. -/
@[simp] def fieldUnder (key : String) : Layout → Slots → Option Value
  | f :: layout, v :: found => if key = f.name then v else fieldUnder key layout found
  | _, _ => none

theorem membersOf_cons (f : Json.Field) (layout : Layout) (v : Option Value) (found : Slots) :
    membersOf (f :: layout) (v :: found) = optionalMember f.name v ++ membersOf layout found := by
  cases v <;> rfl

theorem keys_membersOf (layout : Layout) (found : Slots) :
    (Entries.keys (membersOf layout found)).Sublist (layout.map (·.name)) := by
  induction layout generalizing found with
  | nil => exact List.Sublist.slnil
  | cons f layout ih =>
      cases found with
      | nil => exact List.nil_sublist _
      | cons v found =>
          rw [membersOf_cons]
          cases v with
          | none => exact (ih found).cons f.name
          | some v => exact (ih found).cons_cons f.name

theorem nodup_keys_membersOf (hnodup : (layout.map (·.name)).Nodup) (found : Slots) :
    (Entries.keys (membersOf layout found)).Nodup :=
  hnodup.sublist (keys_membersOf layout found)

theorem fieldUnder_of_notMem (h : key ∉ layout.map (·.name)) (found : Slots) :
    fieldUnder key layout found = none := by
  induction layout generalizing found with
  | nil => rfl
  | cons f layout ih =>
      rcases not_or.1 (fun hmem => h (List.mem_cons.2 hmem)) with ⟨hf, hrest⟩
      cases found with
      | nil => rfl
      | cons v found => rw [fieldUnder, if_neg hf, ih hrest]

theorem find?_membersOf (hnodup : (layout.map (·.name)).Nodup) (found : Slots) (key : String) :
    Entries.find? key (membersOf layout found) = fieldUnder key layout found := by
  induction layout generalizing found with
  | nil => rfl
  | cons f layout ih =>
      rcases List.nodup_cons.1 hnodup with ⟨hf, hrest⟩
      cases found with
      | nil => rfl
      | cons v found =>
          rw [membersOf_cons, fieldUnder, ← ih hrest]
          cases v with
          | some v => rfl
          | none =>
              show Entries.find? key (membersOf layout found) = _
              split
              · rename_i heq
                subst heq
                exact (ih hrest found).trans (fieldUnder_of_notMem hf found)
              · rfl

theorem member?_recordOf (hnodup : (layout.map (·.name)).Nodup) (found : Slots) (key : String) :
    (recordOf layout found).member? key = fieldUnder key layout found :=
  (Entries.find?_ofList (nodup_keys_membersOf hnodup found)).trans
    (find?_membersOf hnodup found key)

theorem map_fieldUnder (hnodup : (layout.map (·.name)).Nodup)
    (hlength : found.length = layout.length) :
    layout.map (fun f => fieldUnder f.name layout found) = found := by
  induction layout generalizing found with
  | nil => exact (List.eq_nil_of_length_eq_zero hlength).symm
  | cons f layout ih =>
      rcases List.nodup_cons.1 hnodup with ⟨hf, hrest⟩
      cases found with
      | nil => cases hlength
      | cons v found =>
          -- No later field has the key of the first one.
          have hlater : ∀ g ∈ layout,
              fieldUnder g.name (f :: layout) (v :: found) = fieldUnder g.name layout found := by
            intro g hg
            have hne : g.name ≠ f.name := fun heq => hf (List.mem_map.2 ⟨g, hg, heq⟩)
            rw [fieldUnder, if_neg hne]
          have hothers := ih hrest (Nat.succ.inj hlength)
          rw [List.map_cons, List.map_congr_left hlater, hothers, fieldUnder, if_pos rfl]

theorem slots_object (layout : Layout) (members : Members) :
    slots layout (.object members) =
      if layout.all (fun f => f.admits (Entries.find? f.name members)) then
        some (layout.map fun f => Entries.find? f.name members)
      else none := by
  -- The slots are filled from the same layout that they are then compared with.
  have hzip : ∀ l : Layout,
      (l.zip (l.map fun f => Entries.find? f.name members)).all (fun p => p.1.admits p.2) =
        l.all fun f => f.admits (Entries.find? f.name members) := by
    intro l
    induction l with
    | nil => rfl
    | cons f l ih => simp [ih]
  rw [← hzip layout]
  rfl

/-- The fields of a record are found in it again. -/
theorem slots_recordOf (hnodup : (layout.map (·.name)).Nodup)
    (hlength : found.length = layout.length)
    (hadmits : (layout.zip found).all (fun p => p.1.admits p.2) = true) :
    slots layout (recordOf layout found) = some found := by
  have hfind : ∀ f ∈ layout, (recordOf layout found).member? f.name =
      fieldUnder f.name layout found :=
    fun f _ => member?_recordOf hnodup found f.name
  have hpick : pick layout (recordOf layout found) = some found :=
    congrArg some ((List.map_congr_left hfind).trans (map_fieldUnder hnodup hlength))
  rw [slots, hpick]
  exact Option.filter_eq_some_iff.2 ⟨rfl, hadmits⟩

/-- A record that is put together from what was found has the same fields again. -/
theorem slots_recordOf_of_slots {v : Value} (hnodup : (layout.map (·.name)).Nodup)
    (h : slots layout v = some found) : slots layout (recordOf layout found) = some found := by
  rcases Option.filter_eq_some_iff.1 h with ⟨hpick, hadmits⟩
  exact slots_recordOf hnodup (length_of_pick hpick) hadmits

/-! ## Envelopes -/

def Request.fields (r : Request) : Slots :=
  [some (.string r.jsonrpc), some (.string r.method), r.params, some r.id]

def Fault.fields (f : Fault) : Slots :=
  [some (.number (.integer f.code.toInt)), some (.string f.message), f.data]

/-- The fields, with the fault written by `fault`. -/
def Response.fieldsBy (fault : Fault → Value) (r : Response) : Slots :=
  [some (.string r.jsonrpc), some r.id, r.result, r.fault.map fault]

theorem Request.members_eq (r : Request) : r.members = membersOf Request.layout r.fields := by
  rcases r with ⟨jsonrpc, method, params, id⟩
  cases params <;> rfl

theorem Fault.members_eq (f : Fault) : f.members = membersOf Fault.layout f.fields := by
  rcases f with ⟨code, message, data⟩
  cases data <;> rfl

theorem Response.membersBy_eq (fault : Fault → Value) (r : Response) :
    r.membersBy fault = membersOf Response.layout (r.fieldsBy fault) := by
  rcases r with ⟨jsonrpc, id, result, error⟩
  cases result <;> cases error <;> rfl

theorem Request.nodup_keys (r : Request) : (Entries.keys r.members).Nodup :=
  r.members_eq ▸ nodup_keys_membersOf (by decide) r.fields

theorem Fault.nodup_keys (f : Fault) : (Entries.keys f.members).Nodup :=
  f.members_eq ▸ nodup_keys_membersOf (by decide) f.fields

theorem Response.nodup_keys (fault : Fault → Value) (r : Response) :
    (Entries.keys (r.membersBy fault)).Nodup :=
  r.membersBy_eq fault ▸ nodup_keys_membersOf (by decide) (r.fieldsBy fault)

theorem Request.toValue_eq (r : Request) : r.toValue = recordOf Request.layout r.fields :=
  congrArg Value.ofMembers r.members_eq

theorem Fault.toValue_eq (f : Fault) : f.toValue = recordOf Fault.layout f.fields :=
  congrArg Value.ofMembers f.members_eq

theorem Response.toValue_eq (r : Response) :
    r.toValue = recordOf Response.layout (r.fieldsBy Fault.toValue) :=
  congrArg Value.ofMembers (r.membersBy_eq Fault.toValue)

/-- What a request has under any key. -/
@[simp] theorem Request.member?_toValue (r : Request) (key : String) :
    r.toValue.member? key = fieldUnder key Request.layout r.fields := by
  rw [r.toValue_eq, member?_recordOf (by decide)]

/-- What a fault has under any key. -/
@[simp] theorem Fault.member?_toValue (f : Fault) (key : String) :
    f.toValue.member? key = fieldUnder key Fault.layout f.fields := by
  rw [f.toValue_eq, member?_recordOf (by decide)]

/-- What a response has under any key. -/
@[simp] theorem Response.member?_toValue (r : Response) (key : String) :
    r.toValue.member? key = fieldUnder key Response.layout (r.fieldsBy Fault.toValue) := by
  rw [r.toValue_eq, member?_recordOf (by decide)]

end Rpc
end RpcHost
