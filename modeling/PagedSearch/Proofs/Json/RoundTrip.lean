import PagedSearch.Proofs.Json.Numerals
import PagedSearch.Proofs.Json.Strings

/-!
# JSON values read back

The text of a value is read as the syntax of the value, with each number in it as its text
is read when it stands alone (`read?_print_map`); so it is read back if each number is
(`read?_print`). Inside a text the same holds in front of a comma or a closing bracket
(`take?_print`).
-/
namespace PagedSearch

namespace JsonNumber

/-- The number with its double replaced. -/
def mapReal (f : Binary64 → Binary64) : JsonNumber → JsonNumber
  | real x => real (f x)
  | whole n => whole n

end JsonNumber

namespace Json

mutual

/-- The numbers inside a value. -/
def numbers : Json → List JsonNumber
  | number n => [n]
  | array items => itemNumbers items
  | object members => memberNumbers members
  | _ => []

def itemNumbers : List Json → List JsonNumber
  | [] => []
  | item :: items => item.numbers ++ itemNumbers items

def memberNumbers : List (String × Json) → List JsonNumber
  | [] => []
  | (_, value) :: members => value.numbers ++ memberNumbers members

end

mutual

/-- The value with each number inside it replaced. -/
def mapNumbers (f : JsonNumber → JsonNumber) : Json → Json
  | number n => number (f n)
  | array items => array (mapItemNumbers f items)
  | object members => object (mapMemberNumbers f members)
  | j => j

def mapItemNumbers (f : JsonNumber → JsonNumber) : List Json → List Json
  | [] => []
  | item :: items => mapNumbers f item :: mapItemNumbers f items

def mapMemberNumbers (f : JsonNumber → JsonNumber) : List (String × Json) → List (String × Json)
  | [] => []
  | (name, value) :: members => (name, mapNumbers f value) :: mapMemberNumbers f members

end

mutual

theorem mapNumbers_id : ∀ j : Json, j.mapNumbers id = j
  | .null => rfl
  | .bool _ => rfl
  | .number _ => rfl
  | .text _ => rfl
  | .array items => congrArg array (mapItemNumbers_id items)
  | .object members => congrArg object (mapMemberNumbers_id members)

theorem mapItemNumbers_id : ∀ items : List Json, mapItemNumbers id items = items
  | [] => rfl
  | item :: items => by rw [mapItemNumbers, mapNumbers_id item, mapItemNumbers_id items]

theorem mapMemberNumbers_id :
    ∀ members : List (String × Json), mapMemberNumbers id members = members
  | [] => rfl
  | (_, value) :: members => by
    rw [mapMemberNumbers, mapNumbers_id value, mapMemberNumbers_id members]

end

end Json

namespace Node

open Json (print printItems printMembers quote escapeChar)

/-! What each kind of node is read from: the readers one step open. -/

section

variable {fuel : Nat} {s rest after : List Char}

theorem take?_quote (s : String) (fuel : Nat) (rest : List Char) :
    take? (fuel + 1) (quote s ++ rest) = some (text (some s), rest) := by
  have read := takeString?_quote s rest
  simp only [quote, List.cons_append, List.append_assoc, List.nil_append, take?,
    skipSpace_cons (c := '"') (by decide), read, Option.map_some]

/-- A closing bracket begins no item. -/
theorem takeItems?_closed (closed : skipSpace s = ']' :: rest) (fuel : Nat) :
    takeItems? fuel s = none := by
  cases fuel with
  | zero => rfl
  | succ fuel =>
    cases fuel with
    | zero => rfl
    | succ fuel =>
      have nothing : take? (fuel + 1) s = none := by
        simp only [take?, closed]
        rfl
      simp only [takeItems?, nothing, Option.bind_eq_bind, Option.bind_none]

theorem take?_array {items : List Node} (read : takeItems? fuel s = some (items, rest)) :
    take? (fuel + 1) ('[' :: s) = some (array items, rest) := by
  simp only [take?, skipSpace_cons (c := '[') (by decide)]
  split
  next closed =>
    rw [takeItems?_closed closed] at read
    cases read
  next => rw [read, Option.map_some]

theorem takeMembers?_closed (closed : skipSpace s = '\x7d' :: rest) (fuel : Nat) :
    takeMembers? fuel s = none := by
  cases fuel with
  | zero => rfl
  | succ fuel =>
    simp only [takeMembers?, closed]
    rfl

theorem take?_object {members : List (Option String × Node)}
    (read : takeMembers? fuel s = some (members, rest)) :
    take? (fuel + 1) ('\x7b' :: s) = some (object members, rest) := by
  simp only [take?, skipSpace_cons (c := '\x7b') (by decide)]
  split
  next closed =>
    rw [takeMembers?_closed closed] at read
    cases read
  next => rw [read, Option.map_some]

theorem takeItems?_last {item : Node} (read : take? fuel s = some (item, ']' :: rest)) :
    takeItems? (fuel + 1) s = some ([item], rest) := by
  simp only [takeItems?, read, Option.bind_eq_bind, Option.bind_some,
    skipSpace_cons (c := ']') (by decide), Option.pure_def]

theorem takeItems?_cons {item : Node} {items : List Node}
    (read : take? fuel s = some (item, ',' :: rest))
    (others : takeItems? fuel rest = some (items, after)) :
    takeItems? (fuel + 1) s = some (item :: items, after) := by
  simp only [takeItems?, read, Option.bind_eq_bind, Option.bind_some,
    skipSpace_cons (c := ',') (by decide), others, Option.pure_def]

theorem takeMembers?_last (name : String) {value : Node}
    (read : take? fuel s = some (value, '\x7d' :: rest)) :
    takeMembers? (fuel + 1) (quote name ++ ':' :: s) = some ([(some name, value)], rest) := by
  simp only [quote, List.cons_append, List.append_assoc, List.nil_append, takeMembers?,
    skipSpace_cons (c := '"') (by decide), takeString?_quote,
    skipSpace_cons (c := ':') (by decide), read, Option.bind_eq_bind, Option.bind_some,
    skipSpace_cons (c := '\x7d') (by decide), Option.pure_def]

theorem takeMembers?_cons (name : String) {value : Node} {members : List (Option String × Node)}
    (read : take? fuel s = some (value, ',' :: rest))
    (others : takeMembers? fuel rest = some (members, after)) :
    takeMembers? (fuel + 1) (quote name ++ ':' :: s) =
      some ((some name, value) :: members, after) := by
  simp only [quote, List.cons_append, List.append_assoc, List.nil_append, takeMembers?,
    skipSpace_cons (c := '"') (by decide), takeString?_quote,
    skipSpace_cons (c := ':') (by decide), read, Option.bind_eq_bind, Option.bind_some,
    skipSpace_cons (c := ',') (by decide), others, Option.pure_def]

end

mutual

/-- The text of a value is read as its syntax, with each number as it is read alone, whatever
follows that closes the value. -/
-- The induction is on the value and not on the fuel: each item and member leaves a comma or a
-- bracket of fuel, two units, for the call that reads it and the call that goes on behind it.
theorem take?_print (f : JsonNumber → JsonNumber) : ∀ (j : Json) (fuel : Nat) (rest : List Char),
    (∀ n ∈ j.numbers, n.ReadsAs (f n)) → Closes rest → 2 * j.print.length < fuel →
    take? fuel (j.print ++ rest) = some (ofValue (j.mapNumbers f), rest)
  | .null, fuel + 1, rest, _, _, _ => rfl
  | .bool true, fuel + 1, rest, _, _, _ => rfl
  | .bool false, fuel + 1, rest, _, _, _ => rfl
  | .number n, fuel + 1, rest, back, closes, _ =>
    (back n (by simp [Json.numbers])).take?_append fuel closes
  | .text s, fuel + 1, rest, _, _, _ => take?_quote s fuel rest
  | .array [], fuel + 1, rest, _, _, _ => rfl
  | .array (item :: items), fuel + 1, rest, back, _, enough => by
    have read := takeItems?_printItems f item items fuel rest back (by
      simp only [print, List.length_cons, List.length_append] at enough
      omega)
    simp only [print, List.cons_append, List.append_assoc, List.nil_append]
    exact take?_array read
  | .object [], fuel + 1, rest, _, _, _ => rfl
  | .object ((name, value) :: members), fuel + 1, rest, back, _, enough => by
    have read := takeMembers?_printMembers f name value members fuel rest back (by
      simp only [print, List.length_cons, List.length_append] at enough
      omega)
    simp only [print, List.cons_append, List.append_assoc, List.nil_append]
    exact take?_object read

theorem takeItems?_printItems (f : JsonNumber → JsonNumber) : ∀ (item : Json)
    (items : List Json) (fuel : Nat) (rest : List Char),
    (∀ n ∈ Json.itemNumbers (item :: items), n.ReadsAs (f n)) →
    2 * (printItems (item :: items)).length + 1 < fuel →
    takeItems? fuel (printItems (item :: items) ++ ']' :: rest) =
      some (ofItemValues (Json.mapItemNumbers f (item :: items)), rest)
  | item, [], fuel + 1, rest, back, enough => by
    simp only [Json.itemNumbers, List.append_nil] at back
    simp only [printItems] at enough ⊢
    exact takeItems?_last (take?_print f item fuel (']' :: rest) back (closes_cons (by simp) rest)
      (by omega))
  | item, next :: items, fuel + 1, rest, back, enough => by
    rw [Json.itemNumbers, List.forall_mem_append] at back
    simp only [printItems, List.length_append, List.length_cons, List.append_assoc,
      List.cons_append] at enough ⊢
    exact takeItems?_cons
      (take?_print f item fuel _ back.1 (closes_cons (by simp) _) (by omega))
      (takeItems?_printItems f next items fuel rest back.2 (by omega))

theorem takeMembers?_printMembers (f : JsonNumber → JsonNumber) : ∀ (name : String) (value : Json)
    (members : List (String × Json)) (fuel : Nat) (rest : List Char),
    (∀ n ∈ Json.memberNumbers ((name, value) :: members), n.ReadsAs (f n)) →
    2 * (printMembers ((name, value) :: members)).length + 1 < fuel →
    takeMembers? fuel (printMembers ((name, value) :: members) ++ '\x7d' :: rest) =
      some (ofMemberValues (Json.mapMemberNumbers f ((name, value) :: members)), rest)
  | name, value, [], fuel + 1, rest, back, enough => by
    simp only [Json.memberNumbers, List.append_nil] at back
    simp only [printMembers, List.length_append, List.length_cons, List.append_assoc,
      List.cons_append] at enough ⊢
    exact takeMembers?_last name (take?_print f value fuel ('\x7d' :: rest) back
      (closes_cons (by simp) rest) (by omega))
  | name, value, (next, nextValue) :: members, fuel + 1, rest, back, enough => by
    rw [Json.memberNumbers, List.forall_mem_append] at back
    simp only [printMembers, List.length_append, List.length_cons, List.append_assoc,
      List.cons_append] at enough ⊢
    exact takeMembers?_cons name
      (take?_print f value fuel _ back.1 (closes_cons (by simp) _) (by omega))
      (takeMembers?_printMembers f next nextValue members fuel rest back.2 (by omega))

end

mutual

/-- No part of the syntax of a value is without a value. -/
theorem value?_ofValue_isSome : ∀ j : Json, (ofValue j).value?.isSome = true
  | .null => rfl
  | .bool _ => rfl
  | .number _ => rfl
  | .text _ => rfl
  | .array items => by
    have every := itemValues?_isSome items
    simp only [ofValue, value?, Option.isSome_map, every]
  | .object members => by
    have every := memberValues?_isSome members
    simp only [ofValue, value?, Option.isSome_map, every]

theorem itemValues?_isSome : ∀ items : List Json, (itemValues? (ofItemValues items)).isSome = true
  | [] => rfl
  | item :: items => by
    obtain ⟨value, first⟩ := Option.isSome_iff_exists.mp (value?_ofValue_isSome item)
    obtain ⟨values, others⟩ := Option.isSome_iff_exists.mp (itemValues?_isSome items)
    simp only [ofItemValues, itemValues?, first, others]
    rfl

theorem memberValues?_isSome :
    ∀ members : List (String × Json), (memberValues? (ofMemberValues members)).isSome = true
  | [] => rfl
  | (name, value) :: members => by
    obtain ⟨value, first⟩ := Option.isSome_iff_exists.mp (value?_ofValue_isSome value)
    obtain ⟨values, others⟩ := Option.isSome_iff_exists.mp (memberValues?_isSome members)
    simp only [ofMemberValues, memberValues?, first, others]
    rfl

end

/-- The whole text of a value is read as its syntax, with each number as it is read alone. -/
theorem read?_print_map {j : Json} {f : JsonNumber → JsonNumber}
    (alone : ∀ n ∈ j.numbers, n.ReadsAs (f n)) :
    read? j.print = some (ofValue (j.mapNumbers f)) := by
  have read := take?_print f j (2 * j.print.length + 1) [] alone (by rintro c ⟨⟩) (by omega)
  rw [List.append_nil] at read
  rw [read?, read]
  rfl

theorem read?_print {j : Json} (back : ∀ n ∈ j.numbers, n.ReadsBack) :
    read? j.print = some (ofValue j) := by
  rw [read?_print_map (f := id) back, j.mapNumbers_id]

end Node

end PagedSearch
