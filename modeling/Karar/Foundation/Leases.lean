import Karar.Foundation.Interleaving

/-!
# Pools of exclusive resources

A pool hands a cell to one caller at a time. The caller sends commands to it, which change the cell
and what all cells share, and gives it back or discards it.

`Conforms` is the proof obligation of one program: it sends commands only to the cell it has, only
permitted ones and gives back only a clean cell; `KeepsLeases` is that it ends with none. A machine
whose programs do so keeps to its leases in every run (`Reaches.leasing`): each call has the cell that its program has
reached, no two calls have one cell, and every cell in the pool is clean.
-/

namespace Karar.Foundation

/-! ### Pools -/

inductive Place
  | pooled
  | leased
  | discarded
deriving DecidableEq

structure Slot (Cell : Type) where
  place : Place
  cell : Cell

structure Pool (Cell Shared : Type) where
  shared : Shared
  slots : List (Slot Cell)

inductive PoolOp (Command Failure : Type)
  | connect
  | send (id : ℕ) (command : Command)
  /-- A cell is given back, or discarded because of a failure. -/
  | release (id : ℕ) (failure : Option Failure)

def PoolOp.Answer {Command : Type} (Reply : Command → Type) (Failure : Type) :
    PoolOp Command Failure → Type
  | .connect => Except Failure ℕ
  | .send _ command => Reply command
  | .release _ _ => Unit

/-- How a cell is made, and what it does with a command. -/
structure Resource (Cell Shared Seed Command Fate : Type) (Reply : Command → Type) where
  create : Seed → Cell
  serve : Cell → Shared → (command : Command) → Fate → (Cell × Shared) × Reply command

inductive Checkout (Seed Failure : Type)
  | reuse (id : ℕ)
  | fresh (seed : Seed)
  | refused (failure : Failure)

/-- What the surroundings decide about an operation. -/
structure Surroundings (Seed Fate Failure : Type) where
  checkout : Checkout Seed Failure
  fate : Fate

variable {Cell Shared Seed Command Fate Failure Request Outcome Result : Type}
  {Reply : Command → Type}

/-- The operations of a pool. One on a cell that is not there for it is not possible. -/
def poolHandler (resource : Resource Cell Shared Seed Command Fate Reply) :
    Handler (PoolOp Command Failure) (PoolOp.Answer Reply Failure) (Pool Cell Shared)
      (Surroundings Seed Fate Failure)
  | pool, .connect, surroundings =>
    match surroundings.checkout with
    | .reuse id =>
      match pool.slots[id]? with
      | some ⟨.pooled, cell⟩ =>
        some ({ pool with slots := pool.slots.set id ⟨.leased, cell⟩ }, .ok id)
      | _ => none
    | .fresh seed =>
      some ({ pool with slots := pool.slots ++ [⟨.leased, resource.create seed⟩] },
        .ok pool.slots.length)
    | .refused failure => some (pool, .error failure)
  | pool, .send id command, surroundings =>
    match pool.slots[id]? with
    | some ⟨.leased, cell⟩ =>
      let ((cell, shared), reply) := resource.serve cell pool.shared command surroundings.fate
      some (⟨shared, pool.slots.set id ⟨.leased, cell⟩⟩, reply)
    | _ => none
  | pool, .release id failure, _ =>
    match pool.slots[id]? with
    | some ⟨.leased, cell⟩ =>
      let place := if failure.isSome then .discarded else .pooled
      some ({ pool with slots := pool.slots.set id ⟨place, cell⟩ }, ())
    | _ => none

section Handler

variable {resource : Resource Cell Shared Seed Command Fate Reply} {pool later : Pool Cell Shared}
  {surroundings : Surroundings Seed Fate Failure} {id : ℕ} {cell : Cell}

theorem handler_connect_ok (hanswer :
      poolHandler resource pool .connect surroundings = some (later, .ok id)) :
    ∃ cell, later = { pool with slots := later.slots } ∧
      ((pool.slots[id]? = some ⟨.pooled, cell⟩ ∧
          later.slots = pool.slots.set id ⟨.leased, cell⟩) ∨
        ∃ seed, cell = resource.create seed ∧ id = pool.slots.length ∧
          later.slots = pool.slots ++ [⟨.leased, cell⟩]) := by
  simp only [poolHandler] at hanswer
  split at hanswer
  · split at hanswer
    · rename_i hslot
      obtain ⟨rfl, hid⟩ := Prod.mk.inj (Option.some.inj hanswer)
      obtain rfl := Except.ok.inj hid
      exact ⟨_, rfl, .inl ⟨hslot, rfl⟩⟩
    · cases hanswer
  · obtain ⟨rfl, hid⟩ := Prod.mk.inj (Option.some.inj hanswer)
    obtain rfl := Except.ok.inj hid
    exact ⟨_, rfl, .inr ⟨_, rfl, rfl, rfl⟩⟩
  · cases (Prod.mk.inj (Option.some.inj hanswer)).2

theorem handler_connect_error {failure : Failure} (hanswer :
      poolHandler resource pool .connect surroundings = some (later, .error failure)) :
    later = pool := by
  simp only [poolHandler] at hanswer
  split at hanswer
  · split at hanswer
    · cases (Prod.mk.inj (Option.some.inj hanswer)).2
    · cases hanswer
  · cases (Prod.mk.inj (Option.some.inj hanswer)).2
  · exact (Prod.mk.inj (Option.some.inj hanswer)).1.symm

theorem handler_send {command : Command} (hslot : pool.slots[id]? = some ⟨.leased, cell⟩) :
    poolHandler resource pool (.send id command : PoolOp Command Failure) surroundings =
      some (⟨(resource.serve cell pool.shared command surroundings.fate).1.2,
          pool.slots.set id
            ⟨.leased, (resource.serve cell pool.shared command surroundings.fate).1.1⟩⟩,
        (resource.serve cell pool.shared command surroundings.fate).2) := by
  simp only [poolHandler, hslot]
  rfl

theorem handler_release {failure : Option Failure}
    (hslot : pool.slots[id]? = some ⟨.leased, cell⟩) :
    poolHandler resource pool (.release id failure : PoolOp Command Failure) surroundings =
      some (⟨pool.shared,
        pool.slots.set id ⟨if failure.isSome then .discarded else .pooled, cell⟩⟩, ()) := by
  simp only [poolHandler, hslot]
  rfl

/-- A slot that is changed in what no command changes. -/
theorem part_set {Part : Type} {part : Cell → Part} {slots : List (Slot Cell)} {place new : Place}
    {next : Cell} (hslot : slots[id]? = some ⟨place, cell⟩) (hpart : part next = part cell)
    (other : ℕ) (slot : Slot Cell) (hother : slots[other]? = some slot) :
    ∃ slot', (slots.set id ⟨new, next⟩)[other]? = some slot' ∧ part slot'.cell = part slot.cell := by
  by_cases hsame : other = id
  · subst hsame
    have hlength : other < slots.length := (List.getElem?_eq_some_iff.mp hslot).1
    rw [hslot] at hother
    obtain rfl := Option.some.inj hother
    exact ⟨_, List.getElem?_set_self hlength, hpart⟩
  · exact ⟨slot, by rw [List.getElem?_set_ne (Ne.symm hsame), hother], rfl⟩

/-- No operation changes what no command changes. -/
theorem handler_part {Part : Type} (part : Cell → Part)
    (hserve : ∀ cell shared command fate,
      part (resource.serve cell shared command fate).1.1 = part cell)
    {op : PoolOp Command Failure} {answer : PoolOp.Answer Reply Failure op}
    (hanswer : poolHandler resource pool op surroundings = some (later, answer)) (other : ℕ)
    (slot : Slot Cell) (hother : pool.slots[other]? = some slot) :
    ∃ slot', later.slots[other]? = some slot' ∧ part slot'.cell = part slot.cell := by
  match op, answer, hanswer with
  | .connect, .error failure, hanswer =>
    obtain rfl := handler_connect_error hanswer
    exact ⟨slot, hother, rfl⟩
  | .connect, .ok id, hanswer =>
    obtain ⟨cell, -, ⟨hslot, hslots⟩ | ⟨seed, -, -, hslots⟩⟩ := handler_connect_ok hanswer
    · rw [hslots]
      exact part_set hslot rfl other slot hother
    · have hlength : other < pool.slots.length := (List.getElem?_eq_some_iff.mp hother).1
      rw [hslots]
      exact ⟨slot, by rw [List.getElem?_append_left hlength, hother], rfl⟩
  | .send id command, answer, hanswer =>
    simp only [poolHandler] at hanswer
    split at hanswer
    · rename_i cell hslot
      obtain ⟨rfl, -⟩ := Prod.mk.inj (Option.some.inj hanswer)
      exact part_set hslot (hserve cell pool.shared command surroundings.fate) other slot hother
    · cases hanswer
  | .release id failure, answer, hanswer =>
    simp only [poolHandler] at hanswer
    split at hanswer
    · rename_i cell hslot
      obtain ⟨rfl, -⟩ := Prod.mk.inj (Option.some.inj hanswer)
      exact part_set hslot rfl other slot hother
    · cases hanswer

end Handler

/-! ### The obligation of a program -/

/-- A program that has the cell `held`, or none, keeps to its leases. The postcondition is about the
cell it ends with. -/
def Conforms (resource : Resource Cell Shared Seed Command Fate Reply) (clean : Cell → Prop)
    (permitted : Cell → Command → Prop) (post : Option (ℕ × Cell) → Result → Prop) :
    Option (ℕ × Cell) → Program (PoolOp Command Failure) (PoolOp.Answer Reply Failure) Result → Prop
  | held, .pure result => post held result
  | held, .call .connect next =>
    held = none ∧
      (∀ failure, Conforms resource clean permitted post none (next (.error failure))) ∧
      ∀ id cell, clean cell →
        Conforms resource clean permitted post (some (id, cell)) (next (.ok id))
  | held, .call (.send id command) next =>
    ∃ cell, held = some (id, cell) ∧ permitted cell command ∧ ∀ shared fate,
      Conforms resource clean permitted post
        (some (id, (resource.serve cell shared command fate).1.1))
        (next (resource.serve cell shared command fate).2)
  | held, .call (.release id failure) next =>
    ∃ cell, held = some (id, cell) ∧ (failure = none → clean cell) ∧
      Conforms resource clean permitted post none (next ())

/-- A program that ends with no cell. -/
def KeepsLeases (resource : Resource Cell Shared Seed Command Fate Reply) (clean : Cell → Prop)
    (permitted : Cell → Command → Prop) (held : Option (ℕ × Cell))
    (program : Program (PoolOp Command Failure) (PoolOp.Answer Reply Failure) Result) : Prop :=
  Conforms resource clean permitted (fun held _ ↦ held = none) held program

section Conforms

variable {resource : Resource Cell Shared Seed Command Fate Reply} {clean : Cell → Prop}
  {permitted : Cell → Command → Prop} {held : Option (ℕ × Cell)}

/-- One program, then another. -/
theorem conforms_bind {Other : Type} {middle : Option (ℕ × Cell) → Other → Prop}
    {post : Option (ℕ × Cell) → Result → Prop}
    {first : Program (PoolOp Command Failure) (PoolOp.Answer Reply Failure) Other}
    {rest : Other → Program (PoolOp Command Failure) (PoolOp.Answer Reply Failure) Result}
    (hfirst : Conforms resource clean permitted middle held first)
    (hrest : ∀ held value, middle held value →
      Conforms resource clean permitted post held (rest value)) :
    Conforms resource clean permitted post held (first >>= rest) := by
  induction first generalizing held with
  | pure value => exact hrest held value hfirst
  | call op next ih =>
    match op, next, hfirst with
    | .connect, next, ⟨hnone, hrefused, hconnected⟩ =>
      exact ⟨hnone, fun failure ↦ ih _ (hrefused failure),
        fun id cell hclean ↦ ih _ (hconnected id cell hclean)⟩
    | .send id command, next, ⟨cell, hheld, hpermitted, hnext⟩ =>
      exact ⟨cell, hheld, hpermitted, fun shared fate ↦ ih _ (hnext shared fate)⟩
    | .release id failure, next, ⟨cell, hheld, hclean, hnext⟩ =>
      exact ⟨cell, hheld, hclean, ih _ hnext⟩

end Conforms

/-! ### Leases along a run -/

namespace Machine

variable {Op Store Oracle Tick : Type} {Answer : Op → Type}
  {machine : Machine Op Answer Store Oracle Request Outcome Tick}
  {c later : Configuration Op Answer Store Request Outcome}

/-- A call whose program returns at once performs nothing. -/
theorem Reaches.returned_at_once {condition : Configuration Op Answer Store Request Outcome →
      Event Oracle Request Tick → Prop} {store : Store}
    (hreaches : Reaches machine condition (.initial store) c) {caller : ℕ} {request : Request}
    {outcome : Outcome} {progress : Progress Op Answer Outcome}
    (hpure : machine.program request = .pure outcome)
    (hcall : c.calls[caller]? = some ⟨request, progress⟩) :
    progress = .running (.pure outcome) ∧ logOf caller c.history = [] := by
  induction hreaches generalizing progress with
  | refl => simp [Configuration.initial] at hcall
  | @step c later event hreaches _ hstep ih =>
    cases steps_of_step_eq_some hstep with
    | start asked =>
      by_cases hold : caller < c.calls.length
      · exact ih ((List.getElem?_append_left hold).symm.trans hcall)
      · have hnew := (List.getElem?_append_right (by omega)).symm.trans hcall
        rw [List.getElem?_singleton] at hnew
        split_ifs at hnew
        obtain ⟨rfl, rfl⟩ := Call.mk.inj (Option.some.inj hnew)
        refine ⟨congrArg Progress.running hpure, ?_⟩
        have hnone : c.history.filter (·.caller == caller) = [] := by
          refine List.filter_eq_nil_iff.mpr fun occurrence hoccurrence hsame ↦ hold ?_
          have hlt := hreaches.caller_lt (by simp [Configuration.initial]) occurrence hoccurrence
          rw [beq_iff_eq] at hsame
          exact hsame ▸ hlt
        simp [logOf, hnone]
    | @perform other oracle asked op next store answer hother hanswer =>
      by_cases hsame : other = caller
      · subst hsame
        have hlt : other < c.calls.length := (List.getElem?_eq_some_iff.mp hother).1
        have hset := (List.getElem?_set_self hlt).symm.trans hcall
        obtain ⟨rfl, -⟩ := Call.mk.inj (Option.some.inj hset)
        cases (ih hother).1
      · have hcall' := (List.getElem?_set_ne hsame).symm.trans hcall
        obtain ⟨hprogress, hlog⟩ := ih hcall'
        exact ⟨hprogress, (logOf_cons_of_ne hsame _ _).trans hlog⟩
    | @end_ _ other asked op next hother =>
      by_cases hsame : other = caller
      · subst hsame
        have hlt : other < c.calls.length := (List.getElem?_eq_some_iff.mp hother).1
        have hset := (List.getElem?_set_self hlt).symm.trans hcall
        obtain ⟨rfl, -⟩ := Call.mk.inj (Option.some.inj hset)
        cases (ih hother).1
      · exact ih ((List.getElem?_set_ne hsame).symm.trans hcall)
    | turn tick => exact ih hcall

end Machine

/-- The calls end by themselves only. -/
def Unharmed {Op Store Oracle Tick : Type} {Answer : Op → Type}
    (_ : Configuration Op Answer Store Request Outcome) : Event Oracle Request Tick → Prop
  | .fail _ => False
  | _ => True

instance {Op Store Oracle Tick : Type} {Answer : Op → Type}
    (c : Configuration Op Answer Store Request Outcome) (event : Event Oracle Request Tick) :
    Decidable (Unharmed c event) :=
  match event with
  | .fail _ => isFalse id
  | .start _ => isTrue trivial
  | .advance _ _ => isTrue trivial
  | .turn _ => isTrue trivial

section Leasing

variable {Tick : Type} {clean : Cell → Prop} {permitted : Request → Cell → Command → Prop}
  {machine : Machine (PoolOp Command Failure) (PoolOp.Answer Reply Failure) (Pool Cell Shared)
    (Surroundings Seed Fate Failure) Request Outcome Tick}
  {resource : Resource Cell Shared Seed Command Fate Reply}
  {c later : Configuration (PoolOp Command Failure) (PoolOp.Answer Reply Failure) (Pool Cell Shared)
    Request Outcome}

/-- Each call has the cell that its program has reached. -/
structure Leasing (resource : Resource Cell Shared Seed Command Fate Reply) (clean : Cell → Prop)
    (permitted : Request → Cell → Command → Prop)
    (c : Configuration (PoolOp Command Failure) (PoolOp.Answer Reply Failure) (Pool Cell Shared)
      Request Outcome) (held : ℕ → Option (ℕ × Cell)) : Prop where
  conforms : ∀ caller request rest, c.calls[caller]? = some ⟨request, .running rest⟩ →
    KeepsLeases resource clean (permitted request) (held caller) rest
  /-- A call that has not started or that has failed has no cell. -/
  absent : ∀ caller, (∀ request rest, c.calls[caller]? ≠ some ⟨request, .running rest⟩) →
    held caller = none
  leased : ∀ caller id cell, held caller = some (id, cell) →
    c.store.slots[id]? = some ⟨.leased, cell⟩
  exclusive : ∀ first second id cell other, held first = some (id, cell) →
    held second = some (id, other) → first = second
  owned : ∀ (id : ℕ) (cell : Cell), c.store.slots[id]? = some ⟨.leased, cell⟩ →
    ∃ caller, held caller = some (id, cell)
  cleanPool : ∀ (id : ℕ) (cell : Cell), c.store.slots[id]? = some ⟨.pooled, cell⟩ → clean cell

variable {held : ℕ → Option (ℕ × Cell)}

/-- A call goes on with another cell, or with none; the other calls keep theirs. -/
theorem Leasing.update (hleasing : Leasing resource clean permitted c held) {caller : ℕ}
    {request : Request}
    {before rest : Program (PoolOp Command Failure) (PoolOp.Answer Reply Failure) Outcome}
    (hcall : c.calls[caller]? = some ⟨request, .running before⟩) {new : Option (ℕ × Cell)}
    {pool : Pool Cell Shared}
    {history : List (Occurrence (PoolOp Command Failure) (PoolOp.Answer Reply Failure))}
    (hconforms : KeepsLeases resource clean (permitted request) new rest)
    (hothers : ∀ other id cell, other ≠ caller → held other = some (id, cell) →
      pool.slots[id]? = some ⟨.leased, cell⟩)
    (hnew : ∀ id cell, new = some (id, cell) → pool.slots[id]? = some ⟨.leased, cell⟩ ∧
      ∀ other cell', other ≠ caller → held other ≠ some (id, cell'))
    (howned : ∀ (id : ℕ) (cell : Cell), pool.slots[id]? = some ⟨.leased, cell⟩ →
      new = some (id, cell) ∨ ∃ other, other ≠ caller ∧ held other = some (id, cell))
    (hclean : ∀ (id : ℕ) (cell : Cell), pool.slots[id]? = some ⟨.pooled, cell⟩ → clean cell) :
    Leasing resource clean permitted
      { store := pool
        calls := c.calls.set caller ⟨request, .running rest⟩
        history := history }
      (Function.update held caller new) := by
  have hlength : caller < c.calls.length := (List.getElem?_eq_some_iff.mp hcall).1
  have hself : (c.calls.set caller ⟨request, .running rest⟩)[caller]? =
      some ⟨request, .running rest⟩ := List.getElem?_set_self hlength
  constructor
  · intro other asked left hother
    by_cases hsame : other = caller
    · subst hsame
      rw [hself] at hother
      cases hother
      rwa [Function.update_self]
    · rw [Function.update_of_ne hsame]
      rw [List.getElem?_set_ne (Ne.symm hsame)] at hother
      exact hleasing.conforms other asked left hother
  · intro other hnone
    by_cases hsame : other = caller
    · subst hsame
      exact absurd hself (hnone _ _)
    · rw [Function.update_of_ne hsame]
      refine hleasing.absent other fun asked left hother ↦ hnone asked left ?_
      rwa [List.getElem?_set_ne (Ne.symm hsame)]
  · intro other id cell hheld
    by_cases hsame : other = caller
    · subst hsame
      rw [Function.update_self] at hheld
      exact (hnew id cell hheld).1
    · rw [Function.update_of_ne hsame] at hheld
      exact hothers other id cell hsame hheld
  · intro first second id cell other hfirst hsecond
    by_cases hone : first = caller
    · by_cases htwo : second = caller
      · rw [hone, htwo]
      · rw [hone, Function.update_self] at hfirst
        rw [Function.update_of_ne htwo] at hsecond
        exact absurd hsecond ((hnew id cell hfirst).2 second other htwo)
    · rw [Function.update_of_ne hone] at hfirst
      by_cases htwo : second = caller
      · rw [htwo, Function.update_self] at hsecond
        exact absurd hfirst ((hnew id other hsecond).2 first cell hone)
      · rw [Function.update_of_ne htwo] at hsecond
        exact hleasing.exclusive first second id cell other hfirst hsecond
  · intro id cell hslot
    rcases howned id cell hslot with hown | ⟨other, hne, hheld⟩
    · exact ⟨caller, by rw [Function.update_self, hown]⟩
    · exact ⟨other, by rw [Function.update_of_ne hne, hheld]⟩
  · exact hclean

/-- A cell in the pool is nobody's. -/
theorem Leasing.not_held (hleasing : Leasing resource clean permitted c held) {id : ℕ} {cell : Cell}
    (hslot : c.store.slots[id]? = some ⟨.pooled, cell⟩) (caller : ℕ) (other : Cell) :
    held caller ≠ some (id, other) := by
  intro hheld
  rw [hleasing.leased caller id other hheld] at hslot
  cases hslot

/-- The slots after one of them has changed. -/
theorem slot_set {slots : List (Slot Cell)} {id other : ℕ} {slot found : Slot Cell}
    (hfound : (slots.set id slot)[other]? = some found) :
    (other = id ∧ found = slot) ∨ (other ≠ id ∧ slots[other]? = some found) := by
  by_cases hsame : other = id
  · subst hsame
    have hlength : other < slots.length := by
      have := (List.getElem?_eq_some_iff.mp hfound).1
      simpa using this
    rw [List.getElem?_set_self hlength] at hfound
    exact .inl ⟨rfl, (Option.some.inj hfound).symm⟩
  · rw [List.getElem?_set_ne (Ne.symm hsame)] at hfound
    exact .inr ⟨hsame, hfound⟩

/-- A call goes on after a change of a slot that only it can have. -/
theorem Leasing.update_set (hleasing : Leasing resource clean permitted c held) (place : Place)
    {caller id : ℕ} {request : Request}
    {before rest : Program (PoolOp Command Failure) (PoolOp.Answer Reply Failure) Outcome}
    (hcall : c.calls[caller]? = some ⟨request, .running before⟩) {slot : Slot Cell}
    {cell : Cell} {shared : Shared}
    {history : List (Occurrence (PoolOp Command Failure) (PoolOp.Answer Reply Failure))}
    (hslot : c.store.slots[id]? = some slot)
    (hbefore : ∀ key cell', held caller = some (key, cell') → key = id)
    (hfree : ∀ other cell', other ≠ caller → held other ≠ some (id, cell'))
    (hclean : place = .pooled → clean cell)
    (hconforms : KeepsLeases resource clean (permitted request)
      (if place = .leased then some (id, cell) else none) rest) :
    Leasing resource clean permitted
      { store := ⟨shared, c.store.slots.set id ⟨place, cell⟩⟩
        calls := c.calls.set caller ⟨request, .running rest⟩
        history := history }
      (Function.update held caller (if place = .leased then some (id, cell) else none)) := by
  have hlength : id < c.store.slots.length := (List.getElem?_eq_some_iff.mp hslot).1
  have hset : (c.store.slots.set id ⟨place, cell⟩)[id]? = some ⟨place, cell⟩ :=
    List.getElem?_set_self hlength
  refine hleasing.update hcall hconforms ?_ ?_ ?_ ?_
  · intro other key held' hother hheld
    have hne : id ≠ key := by
      rintro rfl
      exact hfree other held' hother hheld
    rw [List.getElem?_set_ne hne]
    exact hleasing.leased other key held' hheld
  · intro key held' hnew
    by_cases hplace : place = .leased
    · rw [if_pos hplace, Option.some.injEq, Prod.mk.injEq] at hnew
      obtain ⟨rfl, rfl⟩ := hnew
      exact ⟨hplace ▸ hset, fun other cell' hother ↦ hfree other cell' hother⟩
    · rw [if_neg hplace] at hnew
      cases hnew
  · intro key held' hfound
    rcases slot_set hfound with ⟨rfl, hsame⟩ | ⟨hne, hfound⟩
    · obtain ⟨hplace, rfl⟩ := Slot.mk.inj hsame
      rw [if_pos hplace.symm]
      exact .inl rfl
    · obtain ⟨other, hheld⟩ := hleasing.owned key held' hfound
      refine .inr ⟨other, ?_, hheld⟩
      rintro rfl
      exact hne (hbefore key held' hheld)
  · intro key held' hfound
    rcases slot_set hfound with ⟨rfl, hsame⟩ | ⟨-, hfound⟩
    · obtain ⟨hplace, rfl⟩ := Slot.mk.inj hsame
      exact hclean hplace.symm
    · exact hleasing.cleanPool key held' hfound

/-- A call goes on without a change of the pool, or with a new cell. -/
theorem Leasing.update_fresh (hleasing : Leasing resource clean permitted c held) {caller : ℕ}
    {request : Request}
    {before rest : Program (PoolOp Command Failure) (PoolOp.Answer Reply Failure) Outcome}
    (hcall : c.calls[caller]? = some ⟨request, .running before⟩) (hnone : held caller = none)
    {cell : Cell}
    {history : List (Occurrence (PoolOp Command Failure) (PoolOp.Answer Reply Failure))}
    (hconforms : KeepsLeases resource clean (permitted request)
      (some (c.store.slots.length, cell)) rest) :
    Leasing resource clean permitted
      { store := ⟨c.store.shared, c.store.slots ++ [⟨.leased, cell⟩]⟩
        calls := c.calls.set caller ⟨request, .running rest⟩
        history := history }
      (Function.update held caller (some (c.store.slots.length, cell))) := by
  have hearlier : ∀ {key : ℕ} {slot : Slot Cell},
      (c.store.slots ++ [⟨.leased, cell⟩])[key]? = some slot →
        c.store.slots[key]? = some slot ∨ (key = c.store.slots.length ∧ slot = ⟨.leased, cell⟩) := by
    intro key slot hfound
    by_cases hkey : key < c.store.slots.length
    · rw [List.getElem?_append_left hkey] at hfound
      exact .inl hfound
    · rw [List.getElem?_append_right (by omega), List.getElem?_singleton] at hfound
      split_ifs at hfound with hlast
      exact .inr ⟨by omega, (Option.some.inj hfound).symm⟩
  refine hleasing.update hcall hconforms ?_ ?_ ?_ ?_
  · intro other key held' _ hheld
    have hfound := hleasing.leased other key held' hheld
    have hlength : key < c.store.slots.length := (List.getElem?_eq_some_iff.mp hfound).1
    rw [List.getElem?_append_left hlength]
    exact hfound
  · intro key held' hnew
    rw [Option.some.injEq, Prod.mk.injEq] at hnew
    obtain ⟨rfl, rfl⟩ := hnew
    refine ⟨by simp, fun other cell' _ hheld ↦ ?_⟩
    have hlength := (List.getElem?_eq_some_iff.mp (hleasing.leased other _ cell' hheld)).1
    omega
  · intro key held' hfound
    rcases hearlier hfound with hfound | ⟨rfl, hsame⟩
    · obtain ⟨other, hheld⟩ := hleasing.owned key held' hfound
      refine .inr ⟨other, ?_, hheld⟩
      rintro rfl
      rw [hnone] at hheld
      cases hheld
    · obtain ⟨-, rfl⟩ := Slot.mk.inj hsame
      exact .inl rfl
  · intro key held' hfound
    rcases hearlier hfound with hfound | ⟨-, hsame⟩
    · exact hleasing.cleanPool key held' hfound
    · cases hsame

/-- One operation of a call that keeps to its leases. -/
theorem Leasing.perform (hleasing : Leasing resource clean permitted c held)
    (hcreate : ∀ seed, clean (resource.create seed)) {caller : ℕ} {request : Request}
    {op : PoolOp Command Failure} {next : PoolOp.Answer Reply Failure op →
      Program (PoolOp Command Failure) (PoolOp.Answer Reply Failure) Outcome}
    (hcall : c.calls[caller]? = some ⟨request, .running (.call op next)⟩)
    {surroundings : Surroundings Seed Fate Failure} {pool : Pool Cell Shared}
    {answer : PoolOp.Answer Reply Failure op}
    (hanswer : poolHandler resource c.store op surroundings = some (pool, answer)) :
    ∃ new, Leasing resource clean permitted
      { store := pool
        calls := c.calls.set caller ⟨request, .running (next answer)⟩
        history := ⟨caller, op, answer⟩ :: c.history }
      (Function.update held caller new) := by
  have hconforms := hleasing.conforms caller request _ hcall
  match op, next, hconforms, answer, hanswer, hcall with
  | .connect, next, ⟨hnone, hrefused, hconnected⟩, answer, hanswer, hcall =>
    match answer, hanswer with
    | .error failure, hanswer =>
      obtain rfl := handler_connect_error hanswer
      refine ⟨none, hleasing.update hcall (hrefused failure) ?_ ?_ ?_ hleasing.cleanPool⟩
      · exact fun other id cell _ ↦ hleasing.leased other id cell
      · exact fun id cell hnew ↦ absurd hnew.symm (Option.some_ne_none _)
      · intro id cell hslot
        obtain ⟨other, hheld⟩ := hleasing.owned id cell hslot
        refine .inr ⟨other, ?_, hheld⟩
        rintro rfl
        rw [hnone] at hheld
        cases hheld
    | .ok id, hanswer =>
      obtain ⟨cell, hpool, ⟨hslot, hslots⟩ | ⟨seed, rfl, rfl, hslots⟩⟩ := handler_connect_ok hanswer
      · rw [hpool, hslots]
        refine ⟨_, hleasing.update_set .leased hcall hslot ?_ ?_ nofun
          (hconnected id cell (hleasing.cleanPool id cell hslot))⟩
        · intro key cell' hheld
          rw [hnone] at hheld
          cases hheld
        · exact fun other cell' _ ↦ hleasing.not_held hslot other cell'
      · rw [hpool, hslots]
        exact ⟨_, hleasing.update_fresh hcall hnone (hconnected _ _ (hcreate seed))⟩
  | .send id command, next, ⟨cell, hheld, _, hrest⟩, answer, hanswer, hcall =>
    have hslot := hleasing.leased caller id cell hheld
    rw [handler_send hslot] at hanswer
    obtain ⟨rfl, rfl⟩ := Prod.mk.inj (Option.some.inj hanswer)
    refine ⟨_, hleasing.update_set .leased hcall hslot ?_ ?_ nofun (hrest _ _)⟩
    · intro key cell' hother
      rw [hheld] at hother
      exact (Prod.mk.inj (Option.some.inj hother)).1.symm
    · exact fun other cell' hne hother ↦ hne (hleasing.exclusive _ _ _ _ _ hother hheld)
  | .release id failure, next, ⟨cell, hheld, hclean, hrest⟩, answer, hanswer, hcall =>
    have hslot := hleasing.leased caller id cell hheld
    rw [handler_release hslot] at hanswer
    obtain ⟨rfl, rfl⟩ := Prod.mk.inj (Option.some.inj hanswer)
    have hnot : (if failure.isSome then Place.discarded else Place.pooled) ≠ .leased := by
      split_ifs <;> simp
    refine ⟨_, hleasing.update_set _ hcall hslot ?_ ?_ ?_ (by rwa [if_neg hnot])⟩
    · intro key cell' hother
      rw [hheld] at hother
      exact (Prod.mk.inj (Option.some.inj hother)).1.symm
    · exact fun other cell' hne hother ↦ hne (hleasing.exclusive _ _ _ _ _ hother hheld)
    · intro hpooled
      refine hclean ?_
      by_contra hsome
      have : failure.isSome = true := Option.isSome_iff_ne_none.mpr hsome
      simp [this] at hpooled

/-- A call that ends without an operation has no cell. -/
theorem Leasing.end_ (hleasing : Leasing resource clean permitted c held) {caller : ℕ}
    {request : Request} {next : Except Failure ℕ →
      Program (PoolOp Command Failure) (PoolOp.Answer Reply Failure) Outcome}
    (hcall : c.calls[caller]? = some ⟨request, .running (.call .connect next)⟩) :
    Leasing resource clean permitted
      { c with calls := c.calls.set caller ⟨request, .failed⟩ } held := by
  have hlength : caller < c.calls.length := (List.getElem?_eq_some_iff.mp hcall).1
  have hself : (c.calls.set caller ⟨request, .failed⟩)[caller]? = some ⟨request, .failed⟩ :=
    List.getElem?_set_self hlength
  refine ⟨fun other asked rest hother ↦ ?_, fun other hnone ↦ ?_, hleasing.leased,
    hleasing.exclusive, hleasing.owned, hleasing.cleanPool⟩
  · by_cases hsame : other = caller
    · subst hsame
      rw [hself] at hother
      cases hother
    · rw [List.getElem?_set_ne (Ne.symm hsame)] at hother
      exact hleasing.conforms other asked rest hother
  · by_cases hsame : other = caller
    · subst hsame
      exact (hleasing.conforms other request _ hcall).1
    · refine hleasing.absent other fun asked rest hother ↦ hnone asked rest ?_
      rwa [List.getElem?_set_ne (Ne.symm hsame)]

/-- A pool whose cells are all there and clean, or discarded. -/
def Pool.Ready (clean : Cell → Prop) (pool : Pool Cell Shared) : Prop :=
  ∀ slot ∈ pool.slots, slot.place ≠ .leased ∧ (slot.place = .pooled → clean slot.cell)

/-- An operation of a call that has started does what its obligation says it can. -/
theorem Leasing.step (hleasing : Leasing resource clean permitted c held)
    (hmachine : machine.handler = poolHandler resource)
    (hturn : ∀ pool tick, machine.turn pool tick = pool)
    (hcreate : ∀ seed, clean (resource.create seed))
    (hprograms : ∀ request,
      KeepsLeases resource clean (permitted request) none (machine.program request))
    {event : Event (Surroundings Seed Fate Failure) Request Tick} (hunharmed : Unharmed c event)
    (hstep : machine.step c event = some later) :
    ∃ held', Leasing resource clean permitted later held' := by
  cases event with
  | fail caller => exact absurd hunharmed id
  | turn tick =>
    obtain rfl := Option.some.inj hstep
    rw [hturn]
    exact ⟨held, hleasing⟩
  | start request =>
    obtain rfl := Option.some.inj hstep
    have hnone : held c.calls.length = none :=
      hleasing.absent _ fun asked rest hcall ↦ by simp at hcall
    refine ⟨held, fun caller asked rest hcall ↦ ?_, fun caller hnone ↦ ?_, hleasing.leased,
      hleasing.exclusive, hleasing.owned, hleasing.cleanPool⟩
    · by_cases hold : caller < c.calls.length
      · rw [List.getElem?_append_left hold] at hcall
        exact hleasing.conforms caller asked rest hcall
      · rw [List.getElem?_append_right (by omega), List.getElem?_singleton] at hcall
        split_ifs at hcall with hlast
        cases hcall
        have hcaller : caller = c.calls.length := by omega
        rw [hcaller, hnone]
        exact hprograms request
    · refine hleasing.absent caller fun asked rest hcall ↦ hnone asked rest ?_
      have hold : caller < c.calls.length := (List.getElem?_eq_some_iff.mp hcall).1
      rwa [List.getElem?_append_left hold]
  | advance caller surroundings =>
    obtain ⟨request, op, next, hcall, ⟨pool, answer, hanswer, rfl⟩ | ⟨hnone, rfl⟩⟩ :=
      Machine.step_advance_eq_some hstep
    · rw [hmachine] at hanswer
      obtain ⟨new, hnew⟩ := hleasing.perform hcreate hcall hanswer
      exact ⟨_, hnew⟩
    · rw [hmachine] at hnone
      have hconforms := hleasing.conforms caller request _ hcall
      match op, next, hconforms, hcall, hnone with
      | .connect, next, _, hcall, _ => exact ⟨held, hleasing.end_ hcall⟩
      | .send id command, next, ⟨cell, hheld, _⟩, hcall, hnone =>
        rw [handler_send (hleasing.leased caller id cell hheld)] at hnone
        cases hnone
      | .release id failure, next, ⟨cell, hheld, _⟩, hcall, hnone =>
        rw [handler_release (hleasing.leased caller id cell hheld)] at hnone
        cases hnone

/-- A machine whose programs conform keeps to its leases. -/
theorem Machine.Reaches.leasing (hmachine : machine.handler = poolHandler resource)
    (hturn : ∀ pool tick, machine.turn pool tick = pool)
    (hcreate : ∀ seed, clean (resource.create seed))
    (hprograms : ∀ request,
      KeepsLeases resource clean (permitted request) none (machine.program request))
    {pool : Pool Cell Shared} (hready : pool.Ready clean)
    (hreaches : Machine.Reaches machine Unharmed (.initial pool) c) :
    ∃ held, Leasing resource clean permitted c held := by
  induction hreaches with
  | refl =>
    have hslots : ∀ (id : ℕ) (slot : Slot Cell), pool.slots[id]? = some slot →
        slot.place ≠ .leased ∧ (slot.place = .pooled → clean slot.cell) :=
      fun id slot hslot ↦ hready slot (List.mem_of_getElem? hslot)
    refine ⟨fun _ ↦ none, fun caller request rest hcall ↦ ?_, fun _ _ ↦ rfl, nofun, nofun,
      fun id cell hslot ↦ ?_, fun id cell hslot ↦ ?_⟩
    · simp [Configuration.initial] at hcall
    · exact absurd rfl (hslots id _ hslot).1
    · exact (hslots id _ hslot).2 rfl
  | step _ hunharmed hstep ih =>
    obtain ⟨held, hleasing⟩ := ih
    exact hleasing.step hmachine hturn hcreate hprograms hunharmed hstep

end Leasing

end Karar.Foundation
