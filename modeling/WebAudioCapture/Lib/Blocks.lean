/-!
# Blocks of a flat memory

A memory is a list of cells. Reading and writing a range fails unless the
whole range exists. Cut into blocks of `size` cells, a memory holds a circular
sequence of `count` blocks starting at block `first` of `cap`.
-/

namespace Blocks

variable {α : Type}

/-- The `len` cells from `off`, when all of them exist. -/
def load (mem : List α) (off len : Nat) : Option (List α) :=
  if off + len ≤ mem.length then some ((mem.drop off).take len) else none

/-- Overwrite the cells from `off` with `cells`, when all of them exist. -/
def store (mem : List α) (off : Nat) (cells : List α) : Option (List α) :=
  if off + cells.length ≤ mem.length then
    some (mem.take off ++ cells ++ mem.drop (off + cells.length))
  else none

/-- Copy `len` cells of `src` from `from` over `dst` at `off`. -/
def copy (dst : List α) (off : Nat) (src : List α) (start len : Nat) : Option (List α) :=
  (load src start len).bind (store dst off)

theorem load_length {mem cells : List α} {off len : Nat} (h : load mem off len = some cells) :
    cells.length = len ∧ off + len ≤ mem.length := by
  unfold load at h
  split at h
  · rename_i fits
    cases h
    simp only [List.length_take, List.length_drop]
    omega
  · cases h

theorem store_length {mem mem' cells : List α} {off : Nat} (h : store mem off cells = some mem') :
    mem'.length = mem.length ∧ off + cells.length ≤ mem.length := by
  unfold store at h
  split at h
  · rename_i fits
    cases h
    simp only [List.length_append, List.length_take, List.length_drop]
    omega
  · cases h

theorem store_getElem? {mem mem' cells : List α} {off : Nat} (h : store mem off cells = some mem')
    (n : Nat) : mem'[n]? = if off ≤ n ∧ n < off + cells.length then cells[n - off]? else mem[n]? := by
  have bound := (store_length h).2
  unfold store at h
  rw [if_pos bound] at h
  cases h
  have first : (mem.take off).length = off := by simp only [List.length_take]; omega
  have upTo : (mem.take off ++ cells).length = off + cells.length := by
    simp only [List.length_append, first]
  by_cases before : n < off
  · rw [if_neg (by omega), List.getElem?_append_left (by omega),
      List.getElem?_append_left (by omega), List.getElem?_take_of_lt before]
  · by_cases inside : n < off + cells.length
    · rw [if_pos ⟨by omega, inside⟩, List.getElem?_append_left (by omega),
        List.getElem?_append_right (by omega), first]
    · rw [if_neg (by omega), List.getElem?_append_right (by omega), upTo, List.getElem?_drop]
      congr 1
      omega

/-- A copy of a whole range that exists on both sides. -/
theorem copy_eq {dst src : List α} {off start len : Nat} (source : start + len ≤ src.length)
    (target : off + len ≤ dst.length) :
    copy dst off src start len =
      some (dst.take off ++ (src.drop start).take len ++ dst.drop (off + len)) := by
  have len_eq : ((src.drop start).take len).length = len := by
    simp only [List.length_take, List.length_drop]; omega
  unfold copy load store
  rw [if_pos source]
  simp only [Option.bind_some, len_eq, if_pos target]

/-- A copy that succeeds had room for what it wrote. -/
theorem copy_room {dst src out : List α} {off start len : Nat}
    (h : copy dst off src start len = some out) : off + len ≤ dst.length := by
  obtain ⟨cells, loaded, stored⟩ := Option.bind_eq_some_iff.mp h
  have room := (store_length stored).2
  rwa [(load_length loaded).1] at room

/-! ## Circular sequences of blocks -/

/-- Block `i` of a memory cut into blocks of `size` cells. -/
def block (mem : List α) (size i : Nat) : List α := (mem.drop (i * size)).take size

/-- The block `i` places after `first` on a circle of `cap` blocks. -/
def slot (cap first i : Nat) : Nat := (first + i) % cap

/-- The `count` blocks from `first` on, in circular order. -/
def ring (mem : List α) (size cap first count : Nat) : List (List α) :=
  (List.range count).map fun i => block mem size (slot cap first i)

@[simp] theorem ring_length (mem : List α) (size cap first count : Nat) :
    (ring mem size cap first count).length = count := by
  simp [ring]

theorem slot_lt {cap first i : Nat} (h : 0 < cap) : slot cap first i < cap := Nat.mod_lt _ h

@[simp] theorem slot_zero {cap first : Nat} (h : first < cap) : slot cap first 0 = first :=
  Nat.mod_eq_of_lt h

theorem slot_next (cap first i : Nat) : slot cap (slot cap first 1) i = slot cap first (i + 1) := by
  unfold slot
  rw [Nat.mod_add_mod]
  congr 1
  omega

/-- Fewer than one turn apart, different places are different blocks. -/
theorem slot_ne {cap first i j : Nat} (lt : i < j) (turn : j < cap) :
    slot cap first i ≠ slot cap first j := by
  intro same
  have cycle : (first + j - (first + i)) % cap = 0 :=
    Nat.sub_mod_eq_zero_of_mod_eq same.symm
  have small : first + j - (first + i) < cap := by omega
  rw [Nat.mod_eq_of_lt small] at cycle
  omega

/-- A block below `cap` lies inside a memory of at least `cap` blocks. -/
theorem block_bound {mem : List α} {size cap i : Nat} (fits : cap * size ≤ mem.length)
    (h : i < cap) : i * size + size ≤ mem.length := by
  have step : (i + 1) * size ≤ cap * size := Nat.mul_le_mul_right size h
  rw [Nat.succ_mul] at step
  omega

theorem block_length {mem : List α} {size i : Nat} (h : i * size + size ≤ mem.length) :
    (block mem size i).length = size := by
  simp only [block, List.length_take, List.length_drop]
  omega

/-- Different blocks occupy disjoint ranges. -/
theorem block_disjoint (size : Nat) {i j : Nat} (h : i ≠ j) :
    i * size + size ≤ j * size ∨ j * size + size ≤ i * size := by
  obtain before | after := Nat.lt_or_gt_of_ne h
  · exact .inl (by rw [← Nat.succ_mul]; exact Nat.mul_le_mul_right size before)
  · exact .inr (by rw [← Nat.succ_mul]; exact Nat.mul_le_mul_right size after)

theorem block_getElem? (mem : List α) (size i n : Nat) :
    (block mem size i)[n]? = if n < size then mem[i * size + n]? else none := by
  unfold block
  by_cases h : n < size
  · rw [if_pos h, List.getElem?_take_of_lt h, List.getElem?_drop]
  · rw [if_neg h, List.getElem?_eq_none]
    simp only [List.length_take]
    omega

theorem store_block_same {mem mem' cells : List α} {size i : Nat} (len : cells.length = size)
    (h : store mem (i * size) cells = some mem') : block mem' size i = cells := by
  apply List.ext_getElem?
  intro n
  rw [block_getElem?]
  by_cases inside : n < size
  · rw [if_pos inside, store_getElem? h, if_pos (by omega)]
    congr 1
    omega
  · rw [if_neg inside, List.getElem?_eq_none (by omega)]

theorem store_block_other {mem mem' cells : List α} {size i j : Nat} (len : cells.length = size)
    (h : store mem (i * size) cells = some mem') (other : j ≠ i) :
    block mem' size j = block mem size j := by
  apply List.ext_getElem?
  intro n
  simp only [block_getElem?]
  by_cases inside : n < size
  · have apart := block_disjoint size other
    rw [if_pos inside, if_pos inside, store_getElem? h, if_neg (by omega)]
  · rw [if_neg inside, if_neg inside]

theorem ring_cons (mem : List α) (size cap first count : Nat) (h : first < cap) :
    ring mem size cap first (count + 1) =
      block mem size first :: ring mem size cap (slot cap first 1) count := by
  simp only [ring, List.range_succ_eq_map, List.map_cons, List.map_map, slot_zero h]
  congr 1
  apply List.map_congr_left
  intro i _
  rw [slot_next]
  rfl

theorem ring_snoc (mem : List α) (size cap first count : Nat) :
    ring mem size cap first (count + 1) =
      ring mem size cap first count ++ [block mem size (slot cap first count)] := by
  simp only [ring, List.range_succ, List.map_append, List.map_cons, List.map_nil]

/-- Writing the block after the last one appends to the circular sequence. -/
theorem ring_store {mem mem' cells : List α} {size cap first count : Nat}
    (room : count < cap) (len : cells.length = size)
    (h : store mem (slot cap first count * size) cells = some mem') :
    ring mem' size cap first (count + 1) = ring mem size cap first count ++ [cells] := by
  rw [ring_snoc, store_block_same len h]
  congr 1
  apply List.map_congr_left
  intro i hi
  exact store_block_other len h (slot_ne (List.mem_range.mp hi) room)

end Blocks
