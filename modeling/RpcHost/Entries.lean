/-!
# Entries kept in ascending key order

A finite map from strings, held as a list of entries. `insert` puts a new entry at its place or
replaces the value under an equal key, so a list built by `insert` alone stays strictly ascending.
Strings compare by code point, which is also the order of their UTF-8 bytes.
-/

namespace RpcHost

abbrev Entries (α : Type _) := List (String × α)

namespace Entries

variable {α β : Type _}

def find? (key : String) : Entries α → Option α
  | [] => none
  | (k, a) :: rest => if key = k then some a else find? key rest

def insert (key : String) (a : α) : Entries α → Entries α
  | [] => [(key, a)]
  | (k, b) :: rest =>
      if key < k then (key, a) :: (k, b) :: rest
      else if key = k then (key, a) :: rest
      else (k, b) :: insert key a rest

/-- Of two entries with one key the later one stays. -/
def ofList (entries : List (String × α)) : Entries α :=
  entries.foldl (fun acc e => insert e.1 e.2 acc) []

def keys (entries : Entries α) : List String :=
  entries.map (·.1)

def contains (key : String) (entries : Entries α) : Bool :=
  (find? key entries).isSome

/-- Each key is smaller than every key after it. -/
def Ascending (entries : Entries α) : Prop :=
  entries.Pairwise (fun a b => a.1 < b.1)

instance (entries : Entries α) : Decidable (Ascending entries) :=
  inferInstanceAs (Decidable (List.Pairwise _ _))

/-! ## Looking up after an insertion -/

@[simp] theorem find?_nil (key : String) : find? key ([] : Entries α) = none := rfl

@[simp] theorem find?_cons (key k : String) (a : α) (rest : Entries α) :
    find? key ((k, a) :: rest) = if key = k then some a else find? key rest := rfl

@[simp] theorem find?_insert_self (key : String) (a : α) (entries : Entries α) :
    find? key (insert key a entries) = some a := by
  induction entries with
  | nil => simp [insert]
  | cons e rest ih =>
      rcases e with ⟨k, b⟩
      by_cases hlt : key < k
      · simp [insert, hlt]
      · by_cases heq : key = k
        · simp [insert, heq]
        · simp [insert, hlt, heq, ih]

@[simp] theorem find?_insert_of_ne {key other : String} (h : other ≠ key) (a : α)
    (entries : Entries α) :
    find? other (insert key a entries) = find? other entries := by
  induction entries with
  | nil => simp [insert, h]
  | cons e rest ih =>
      rcases e with ⟨k, b⟩
      by_cases hlt : key < k
      · simp [insert, hlt, h]
      · by_cases heq : key = k
        · subst heq
          simp [insert, h]
        · by_cases hok : other = k <;> simp [insert, hlt, heq, hok, ih]

end Entries
end RpcHost
