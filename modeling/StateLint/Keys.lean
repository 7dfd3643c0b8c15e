/-! Sets of rule ids and tags, as ascending lists without repetitions. Texts are ordered by their
code points. -/
namespace StateLint.Keys

/-- Puts a key in its place, unless it is there. -/
def insert (key : String) : List String → List String
  | [] => [key]
  | k :: keys =>
    if key < k then key :: k :: keys
    else if key = k then k :: keys
    else k :: insert key keys

def ofList (keys : List String) : List String := keys.foldl (fun set key => insert key set) []

theorem mem_insert {key k : String} {keys : List String} :
    k ∈ insert key keys ↔ k = key ∨ k ∈ keys := by
  induction keys with
  | nil => simp [insert]
  | cons j keys ih =>
    unfold insert
    split
    · simp
    · split
      · next h => subst h; simp
      · simp only [List.mem_cons, ih]
        constructor
        · rintro (h | h | h)
          · exact .inr (.inl h)
          · exact .inl h
          · exact .inr (.inr h)
        · rintro (h | h | h)
          · exact .inr (.inl h)
          · exact .inl h
          · exact .inr (.inr h)

theorem mem_foldl_insert {k : String} {keys set : List String} :
    k ∈ keys.foldl (fun set key => insert key set) set ↔ k ∈ keys ∨ k ∈ set := by
  induction keys generalizing set with
  | nil => simp
  | cons key keys ih =>
    rw [List.foldl_cons, ih, mem_insert, List.mem_cons, ← or_assoc, or_comm (a := k ∈ keys)]

theorem mem_ofList {k : String} {keys : List String} : k ∈ ofList keys ↔ k ∈ keys := by
  simp [ofList, mem_foldl_insert]

end StateLint.Keys
