/-!
# Pin maps

What a device keeps at its pins: a value per pin, in the fixed order of the pins. Writing at a pin
that the device does not have changes nothing.
-/

namespace LogicBench

/-- A value at each pin, in pin order. -/
abbrev PinMap (κ α : Type) := List (κ × α)

namespace PinMap

variable {κ α : Type}

def pins (map : PinMap κ α) : List κ :=
  map.map (·.1)

/-- The pin of a map that has just one. -/
def sole? : PinMap κ α → Option κ
  | [(pin, _)] => some pin
  | _ => none

variable [DecidableEq κ]

def get? (map : PinMap κ α) (pin : κ) : Option α :=
  match map with
  | [] => none
  | (key, value) :: rest => if key = pin then some value else get? rest pin

def set (map : PinMap κ α) (pin : κ) (value : α) : PinMap κ α :=
  match map with
  | [] => []
  | (key, old) :: rest =>
    if key = pin then (key, value) :: rest else (key, old) :: set rest pin value

def has (map : PinMap κ α) (pin : κ) : Bool :=
  (get? map pin).isSome

@[simp] theorem pins_set (map : PinMap κ α) (pin : κ) (value : α) :
    (map.set pin value).pins = map.pins := by
  induction map with
  | nil => rfl
  | cons entry rest ih =>
    simp only [set]
    split
    · rfl
    · simpa [pins] using ih

theorem get?_set_self {map : PinMap κ α} {pin : κ} (h : map.has pin) (value : α) :
    (map.set pin value).get? pin = some value := by
  induction map with
  | nil => simp [has, get?] at h
  | cons entry rest ih =>
    simp only [has, get?, set] at h ih ⊢
    split <;> simp_all [get?]

theorem get?_set_of_ne (map : PinMap κ α) {pin other : κ} (h : other ≠ pin) (value : α) :
    (map.set pin value).get? other = map.get? other := by
  induction map with
  | nil => rfl
  | cons entry rest ih =>
    simp only [set]
    split
    · next hk => simp [get?, hk, h.symm]
    · simp only [get?, ih]

theorem has_iff_mem_pins (map : PinMap κ α) (pin : κ) : map.has pin ↔ pin ∈ map.pins := by
  induction map with
  | nil => simp [has, get?, pins]
  | cons entry rest ih =>
    by_cases hk : entry.1 = pin
    · simp [has, get?, pins, hk]
    · simpa [has, get?, pins, hk, Ne.symm hk] using ih

end PinMap

end LogicBench
