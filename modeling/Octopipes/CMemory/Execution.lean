import Mathlib.Data.List.Basic

namespace CMemory

/-- A fault is an access that the C memory model leaves undefined. -/
inductive Fault where
  | outOfBounds
  | nullPointer
  | wildPointer
  | uninitialized
  deriving DecidableEq, Repr

/-- An execution returns a value or reaches an undefined access. -/
abbrev Exec (A : Type) := Except Fault A

section Monad

variable {A B : Type}

@[simp] theorem Exec.ok_bind (value : A) (next : A → Exec B) :
    ((Except.ok value : Exec A) >>= next) = next value := rfl

@[simp] theorem Exec.error_bind (fault : Fault) (next : A → Exec B) :
    ((Except.error fault : Exec A) >>= next) = .error fault := rfl

@[simp] theorem Exec.pure_eq (value : A) : (pure value : Exec A) = .ok value := rfl

/-- A sequence returns only when both parts return. -/
theorem Exec.bind_eq_ok {first : Exec A} {next : A → Exec B} {result : B} :
    (first >>= next) = .ok result ↔ ∃ value, first = .ok value ∧ next value = .ok result := by
  cases first with
  | error fault => simp
  | ok value => simp

/-- A function of the result of a sequence applies to its second part. -/
theorem Exec.map_bind {C : Type} (f : B → C) (first : Exec A) (next : A → Exec B) :
    (first >>= next).map f = first >>= fun value => (next value).map f := by
  cases first with
  | error fault => rfl
  | ok value => rfl

/-- The C standard permits every result after an undefined access. -/
def MayReturn (execution : Exec A) (result : A) : Prop :=
  ∀ value, execution = .ok value → value = result

@[simp] theorem mayReturn_ok (value result : A) :
    MayReturn (Except.ok value) result ↔ value = result := by
  simp [MayReturn]

@[simp] theorem mayReturn_error (fault : Fault) (result : A) :
    MayReturn (Except.error fault) result ↔ True := by
  simp [MayReturn]

end Monad

/-- A pointer is null, points to a live object, or has no valid target. -/
inductive Pointer (A : Type) where
  | null
  | live (target : A)
  | wild
  deriving DecidableEq, Repr

namespace Pointer

variable {A : Type}

def isNull : Pointer A → Bool
  | .null => true
  | .live _ => false
  | .wild => false

/-- An access needs a live target. -/
def deref : Pointer A → Exec A
  | .null => .error .nullPointer
  | .live target => .ok target
  | .wild => .error .wildPointer

/-- The `free` call leaves a dangling pointer in the variable. -/
def free : Pointer A → Exec (Pointer A)
  | .null => .ok .null
  | .live _ => .ok .wild
  | .wild => .error .wildPointer

/-- The `malloc` call gives a fresh object or a null pointer. -/
def malloc (granted : Bool) (object : A) : Pointer A :=
  if granted then .live object else .null

/-- A pointer to a part follows the pointer to the whole. -/
def map {B : Type} (part : A → B) : Pointer A → Pointer B
  | .null => .null
  | .live target => .live (part target)
  | .wild => .wild

@[simp] theorem isNull_null : (null : Pointer A).isNull = true := rfl

@[simp] theorem isNull_live (target : A) : (live target).isNull = false := rfl

@[simp] theorem isNull_wild : (wild : Pointer A).isNull = false := rfl

@[simp] theorem deref_null : (null : Pointer A).deref = .error .nullPointer := rfl

@[simp] theorem deref_live (target : A) : (live target).deref = .ok target := rfl

@[simp] theorem deref_wild : (wild : Pointer A).deref = .error .wildPointer := rfl

/-- A dereferenced pointer is live. -/
theorem deref_eq_ok {pointer : Pointer A} {target : A} :
    pointer.deref = .ok target ↔ pointer = .live target := by
  cases pointer with
  | null => simp [deref]
  | live stored => simp [deref]
  | wild => simp [deref]

@[simp] theorem free_null : (null : Pointer A).free = .ok .null := rfl

@[simp] theorem free_live (target : A) : (live target).free = .ok .wild := rfl

@[simp] theorem free_wild : (wild : Pointer A).free = .error .wildPointer := rfl

theorem free_allowed (pointer : Pointer A) (allowed : pointer ≠ .wild) :
    ∃ freed, pointer.free = .ok freed := by
  cases pointer with
  | null => exact ⟨_, rfl⟩
  | live target => exact ⟨_, rfl⟩
  | wild => exact absurd rfl allowed

/-- The pointer that a `free` call leaves is never live. -/
theorem free_not_live {pointer freed : Pointer A} {target : A} (released : pointer.free = .ok freed) :
    freed ≠ .live target := by
  cases pointer with
  | null => cases released; simp
  | live _ => cases released; simp
  | wild => cases released

@[simp] theorem malloc_true (object : A) : malloc true object = .live object := rfl

@[simp] theorem malloc_false (object : A) : malloc false object = (.null : Pointer A) := rfl

end Pointer

end CMemory
