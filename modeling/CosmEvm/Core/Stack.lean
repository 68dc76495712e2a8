import CosmEvm.Core.Word

/-!
# The value stack

go-ethereum keeps the stack as a slice whose last element is the top.  The
model lists the words top first, so `Back(n)` is the `n`-th element and
`Pop` removes the head.  Reading below the bottom is the Go runtime's
index-out-of-range panic; the interpreter's `minStack` check exists to rule it
out, and the frame lemmas at the end say what the words below a read do not
influence.
-/

namespace CosmEvm

/-- The interpreter stack, top of stack first. -/
structure Stack where
  data : List Word
  deriving DecidableEq, Repr

namespace Stack

/-- `len(st.data)`. -/
def len (st : Stack) : Nat := st.data.length

/-- `Back(n)`: the `n`-th word below the top. -/
def back (st : Stack) (n : Nat) : Except VmError Word :=
  match st.data[n]? with
  | some w => .ok w
  | none => .error .stackUnderflow

/-- `Peek()`: the top word. -/
def peek (st : Stack) : Except VmError Word := st.back 0

/-- `Pop()`: the top word and the stack below it. -/
def pop (st : Stack) : Except VmError (Word × Stack) :=
  match st.data with
  | [] => .error .stackUnderflow
  | w :: rest => .ok (w, ⟨rest⟩)

/-- `Push(w)`; the interpreter's `maxStack` check bounds the depth. -/
def push (st : Stack) (w : Word) : Stack := ⟨w :: st.data⟩

@[simp]
theorem back_cons_zero (w : Word) (rest : List Word) : (⟨w :: rest⟩ : Stack).back 0 = .ok w := by
  simp [back]

@[simp]
theorem back_cons_succ (w : Word) (rest : List Word) (n : Nat) :
    (⟨w :: rest⟩ : Stack).back (n + 1) = (⟨rest⟩ : Stack).back n := by
  simp [back]

@[simp]
theorem peek_cons (w : Word) (rest : List Word) : (⟨w :: rest⟩ : Stack).peek = .ok w := by
  simp [peek]

@[simp]
theorem pop_cons (w : Word) (rest : List Word) : (⟨w :: rest⟩ : Stack).pop = .ok (w, ⟨rest⟩) :=
  rfl

@[simp]
theorem len_push (st : Stack) (w : Word) : (st.push w).len = st.len + 1 :=
  rfl

/-- A read fails only by running off the bottom of the stack. -/
theorem back_eq_error {st : Stack} {n : Nat} {err : VmError} (fails : st.back n = .error err) :
    err = .stackUnderflow := by
  unfold back at fails
  split at fails <;> cases fails
  rfl

/-- A read within the top `st.len` words ignores what lies below them. -/
theorem back_append {st : Stack} {n : Nat} (within : n < st.len) (rest : List Word) :
    (⟨st.data ++ rest⟩ : Stack).back n = st.back n := by
  simp only [back, List.getElem?_append_left within]

/-- A read within the stack succeeds. -/
theorem back_of_lt {st : Stack} {n : Nat} (within : n < st.len) :
    st.back n = .ok (st.data.get ⟨n, within⟩) := by
  simp [back, List.getElem?_eq_getElem within]

end Stack

end CosmEvm
