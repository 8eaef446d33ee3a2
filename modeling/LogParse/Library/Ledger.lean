import Mathlib.Data.List.Nodup
import Mathlib.Data.List.Perm.Basic
import Mathlib.Data.List.Perm.Lattice
import Mathlib.Data.List.Range

/-!
# Custody of items in a first-in first-out store

A store numbers the items it accepts.  Every accepted item is later delivered
or evicted, always from the front, or it is still waiting.  `Balanced` says
this of a ledger and of the items that wait: what was delivered followed by
what waits is the list of accepted items with exactly the evicted ones
deleted.
-/

namespace LogParse

universe u

/-- An item together with the number under which it was accepted. -/
structure Ticketed (α : Type u) where
  ticket : Nat
  item : α
  deriving DecidableEq, Repr, Inhabited

structure Ledger (α : Type u) where
  accepted : List (Ticketed α) := []
  evicted : List Nat := []
  delivered : List (Ticketed α) := []
  deriving DecidableEq, Repr

namespace Ledger

variable {α : Type u}

/-- The item under the number it gets if it is accepted now. -/
def stamp (ledger : Ledger α) (item : α) : Ticketed α :=
  ⟨ledger.accepted.length, item⟩

def accept (ledger : Ledger α) (item : α) : Ledger α :=
  { ledger with accepted := ledger.accepted ++ [ledger.stamp item] }

def evict (ledger : Ledger α) (lost : Ticketed α) : Ledger α :=
  { ledger with evicted := ledger.evicted ++ [lost.ticket] }

def deliver (ledger : Ledger α) (front : Ticketed α) : Ledger α :=
  { ledger with delivered := ledger.delivered ++ [front] }

/-- The accepted items, in order of acceptance, less the evicted ones. -/
def survivors (ledger : Ledger α) : List (Ticketed α) :=
  ledger.accepted.filter fun entry => entry.ticket ∉ ledger.evicted

section Owners

variable {ω : Type*} [DecidableEq ω]

/-- The items of an owner among the entries, if item number `n` belongs to
`owners[n]`. -/
def owned (owners : List ω) (owner : ω) (entries : List (Ticketed α)) :
    List α :=
  (entries.filter fun entry => owners[entry.ticket]? = some owner).map
    Ticketed.item

theorem owned_append (owners : List ω) (owner : ω)
    (earlier later : List (Ticketed α)) :
    owned owners owner (earlier ++ later) =
      owned owners owner earlier ++ owned owners owner later := by
  simp [owned]

theorem owned_sublist {owners : List ω} {owner : ω}
    {fewer more : List (Ticketed α)} (sublist : fewer.Sublist more) :
    (owned owners owner fewer).Sublist (owned owners owner more) :=
  (sublist.filter _).map _

end Owners

structure Balanced (ledger : Ledger α) (waiting : List (Ticketed α)) :
    Prop where
  numbered : ledger.accepted.map Ticketed.ticket =
    List.range ledger.accepted.length
  order : ledger.delivered ++ waiting = ledger.survivors
  known : ∀ ticket ∈ ledger.evicted, ticket < ledger.accepted.length
  once : ledger.evicted.Nodup

namespace Balanced

variable {ledger : Ledger α} {waiting rest : List (Ticketed α)}
  {front : Ticketed α}

theorem empty : Balanced ({} : Ledger α) [] where
  numbered := rfl
  order := rfl
  known := by simp
  once := List.nodup_nil

theorem survivors_tickets (balanced : Balanced ledger waiting) :
    ledger.survivors.map Ticketed.ticket =
      (List.range ledger.accepted.length).filter
        fun ticket => ticket ∉ ledger.evicted := by
  rw [← balanced.numbered, List.filter_map]
  rfl

theorem tickets_nodup (balanced : Balanced ledger waiting) :
    ((ledger.delivered ++ waiting).map Ticketed.ticket).Nodup := by
  rw [balanced.order, balanced.survivors_tickets]
  exact List.nodup_range.filter _

/-- A number is in custody exactly when it was given out and its item was not
evicted. -/
theorem mem_tickets_iff (balanced : Balanced ledger waiting) (ticket : Nat) :
    ticket ∈ (ledger.delivered ++ waiting).map Ticketed.ticket ↔
      ticket < ledger.accepted.length ∧ ticket ∉ ledger.evicted := by
  rw [balanced.order, balanced.survivors_tickets]
  simp

/-- The conservation law of the store. -/
theorem length_eq (balanced : Balanced ledger waiting) :
    ledger.delivered.length + waiting.length + ledger.evicted.length =
      ledger.accepted.length := by
  have evictedPerm :
      ((List.range ledger.accepted.length).filter
        fun ticket => ticket ∈ ledger.evicted).Perm ledger.evicted := by
    apply (List.perm_ext_iff_of_nodup (List.nodup_range.filter _)
      balanced.once).mpr
    intro ticket
    simp only [List.mem_filter, List.mem_range, decide_eq_true_eq,
      and_iff_right_iff_imp]
    exact balanced.known ticket
  have kept : ledger.delivered.length + waiting.length =
      ((List.range ledger.accepted.length).filter
        fun ticket => ticket ∉ ledger.evicted).length := by
    rw [← balanced.survivors_tickets, ← balanced.order]
    simp
  have split := List.length_eq_length_filter_add
    (l := List.range ledger.accepted.length)
    (fun ticket => decide (ticket ∈ ledger.evicted))
  rw [kept, ← evictedPerm.length_eq]
  simp only [List.length_range] at split
  simpa [Nat.add_comm] using split.symm

/-- An item is found at its number. -/
theorem ticket_eq (balanced : Balanced ledger waiting) {index : Nat}
    {entry : Ticketed α} (found : ledger.accepted[index]? = some entry) :
    entry.ticket = index := by
  obtain ⟨within, _⟩ := List.getElem?_eq_some_iff.mp found
  have numbers : (ledger.accepted.map Ticketed.ticket)[index]? =
      (List.range ledger.accepted.length)[index]? := by
    rw [balanced.numbered]
  rw [List.getElem?_map, found] at numbers
  simpa [within] using numbers

/-- If only older items were evicted, the newer ones are all in custody, and
nothing comes after them. -/
theorem drop_suffix (balanced : Balanced ledger waiting) {count : Nat}
    (older : ∀ ticket ∈ ledger.evicted, ticket < count) :
    ledger.accepted.drop count <:+ ledger.delivered ++ waiting := by
  have newer : (ledger.accepted.drop count).filter
      (fun entry => entry.ticket ∉ ledger.evicted) =
        ledger.accepted.drop count := by
    apply List.filter_eq_self.mpr
    intro entry member
    obtain ⟨index, found⟩ := List.mem_iff_getElem?.mp member
    rw [List.getElem?_drop] at found
    have number := balanced.ticket_eq found
    apply decide_eq_true
    intro evicted
    have old := older entry.ticket evicted
    omega
  have survivors : ledger.survivors =
      (ledger.accepted.take count).filter
        (fun entry => entry.ticket ∉ ledger.evicted) ++
          ledger.accepted.drop count := by
    rw [survivors, ← newer, ← List.filter_append, List.take_append_drop]
  rw [balanced.order, survivors]
  exact List.suffix_append _ _

theorem accept (balanced : Balanced ledger waiting) (item : α) :
    Balanced (ledger.accept item) (waiting ++ [ledger.stamp item]) where
  numbered := by
    simp [Ledger.accept, stamp, balanced.numbered, List.range_succ]
  order := by
    have fresh : ledger.accepted.length ∉ ledger.evicted := fun known =>
      Nat.lt_irrefl _ (balanced.known _ known)
    have appended : (ledger.accept item).survivors =
        ledger.survivors ++ [ledger.stamp item] := by
      let kept (entry : Ticketed α) : Bool := entry.ticket ∉ ledger.evicted
      have stays : kept (ledger.stamp item) = true := decide_eq_true fresh
      change (ledger.accepted ++ [ledger.stamp item]).filter kept = _
      rw [List.filter_append, List.filter_cons_of_pos stays, List.filter_nil]
      rfl
    rw [appended, ← balanced.order, ← List.append_assoc]
    rfl
  known := by
    intro ticket evicted
    have known := balanced.known ticket evicted
    simp only [Ledger.accept, List.length_append, List.length_singleton]
    omega
  once := balanced.once

/-- A new owner at the end of the list owns the next item. -/
theorem owned_accept {ω : Type*} [DecidableEq ω]
    (balanced : Balanced ledger waiting) {owners : List ω}
    (complete : owners.length = ledger.accepted.length) (item : α)
    (newOwner owner : ω) :
    owned (owners ++ [newOwner]) owner (ledger.accept item).accepted =
      owned owners owner ledger.accepted ++
        if newOwner = owner then [item] else [] := by
  have earlier : owned (owners ++ [newOwner]) owner ledger.accepted =
      owned owners owner ledger.accepted := by
    unfold owned
    congr 1
    apply List.filter_congr
    intro entry member
    obtain ⟨index, found⟩ := List.mem_iff_getElem?.mp member
    obtain ⟨within, _⟩ := List.getElem?_eq_some_iff.mp found
    rw [balanced.ticket_eq found, List.getElem?_append_left]
    rwa [complete]
  have place : (owners ++ [newOwner])[(ledger.stamp item).ticket]? =
      some newOwner := by
    simp [stamp, ← complete]
  rw [Ledger.accept, owned_append, earlier]
  congr 1
  simp only [owned, List.filter_singleton, place, Option.some.injEq]
  split <;> simp_all [stamp]

theorem deliver (balanced : Balanced ledger (front :: rest)) :
    Balanced (ledger.deliver front) rest where
  numbered := balanced.numbered
  order := by
    have unchanged : (ledger.deliver front).survivors = ledger.survivors := rfl
    rw [unchanged, ← balanced.order]
    simp [Ledger.deliver]
  known := balanced.known
  once := balanced.once

theorem evict (balanced : Balanced ledger (front :: rest)) :
    Balanced (ledger.evict front) rest := by
  have distinct := balanced.tickets_nodup
  have custody := (balanced.mem_tickets_iff front.ticket).mp (by simp)
  simp only [List.map_append, List.map_cons, List.nodup_append,
    List.nodup_cons, List.mem_cons, List.mem_map] at distinct
  obtain ⟨_, ⟨notInRest, _⟩, apart⟩ := distinct
  refine ⟨balanced.numbered, ?_, ?_, ?_⟩
  · have filtered : (ledger.evict front).survivors =
        ledger.survivors.filter fun entry => entry.ticket ≠ front.ticket := by
      simp only [survivors, Ledger.evict, List.filter_filter,
        List.mem_append, List.mem_singleton]
      congr 1
      funext entry
      by_cases same : entry.ticket = front.ticket <;> simp [same]
    have deliveredKept :
        (ledger.delivered.filter fun entry => entry.ticket ≠ front.ticket) =
          ledger.delivered := by
      apply List.filter_eq_self.mpr
      intro entry member
      simpa using apart entry.ticket ⟨entry, member, rfl⟩ front.ticket
        (Or.inl rfl)
    have restKept : (rest.filter fun entry => entry.ticket ≠ front.ticket) =
        rest := by
      apply List.filter_eq_self.mpr
      intro entry member
      have different : entry.ticket ≠ front.ticket := fun same =>
        notInRest ⟨entry, member, same⟩
      simpa using different
    rw [filtered, ← balanced.order, List.filter_append, deliveredKept]
    simpa [Ledger.evict] using restKept.symm
  · intro ticket member
    simp only [Ledger.evict, List.mem_append, List.mem_singleton] at member
    rcases member with before | rfl
    · exact balanced.known ticket before
    · exact custody.1
  · simp only [Ledger.evict]
    exact List.nodup_append.mpr ⟨balanced.once, List.nodup_singleton _,
      fun ticket member other isFront => by
        rw [List.mem_singleton.mp isFront]
        rintro rfl
        exact custody.2 member⟩

end Balanced

end Ledger

end LogParse
