import FoodDelivery.Lib.Marked
import FoodDelivery.Users.Addresses

/-!
# Exactly one default address

A user's address book is a list with one marked entry, the default.  What is stored of it has a
flag on every entry, and each of the three methods leaves a list that shows an address book again.

* `stores_addAddress`, `stores_updateAddress`, `stores_removeAddress`: the methods as operations on
  address books.
* `addresses_one_default`: exactly one flag is set, and the entries that a call is not for keep
  their labels and addresses.
-/

namespace FoodDelivery

open Store Keyed

namespace UsersService

/-- A saved address without its flag. -/
structure AddressEntry where
  id : AddressId
  label : Option String
  address : Option Address
  deriving DecidableEq

def SavedAddress.entry (a : SavedAddress) : AddressEntry := ⟨a.id, a.label, a.address⟩

/-- The entries of a user, and the id of the default. -/
abbrev AddressBook := Marked AddressEntry.id

/-- What is stored of an address book. -/
abbrev Stores (addresses : List SavedAddress) (book : AddressBook) : Prop :=
  Shows SavedAddress.entry SavedAddress.flagged addresses book

/-- The list is empty, or exactly one of its entries is the default. -/
def OneDefault (addresses : List SavedAddress) : Prop :=
  addresses = [] ∨ addresses.countP SavedAddress.flagged = 1

/-- The labels and addresses of the entries with another id, in their order. -/
def otherEntries (addressId : AddressId) (addresses : List SavedAddress) : List AddressEntry :=
  (Keyed.others SavedAddress.id addressId addresses).map SavedAddress.entry

section Methods

variable {addresses addresses' : List SavedAddress} {book : AddressBook} {a : SavedAddress}
  {newId addressId : AddressId}

/-- The entry of a new address. -/
def CreateSavedAddressDto.entry (dto : CreateSavedAddressDto) (newId : AddressId) : AddressEntry :=
  ⟨newId, some (trim dto.label), some dto.address.cast⟩

/-- What an update makes of the entry that it is for. -/
def UpdateSavedAddressDto.edit (dto : UpdateSavedAddressDto) (e : AddressEntry) : AddressEntry :=
  (dto.assign ⟨e.id, e.label, e.address, none⟩).entry

theorem UpdateSavedAddressDto.id_edit (dto : UpdateSavedAddressDto) (e : AddressEntry) :
    (dto.edit e).id = e.id := rfl

theorem save_eq_ok : save addresses = .ok addresses' ↔
    addresses.all SavedAddress.valid = true ∧ addresses' = addresses := by
  rw [save]
  split
  · next h => exact ⟨by rintro ⟨⟩; exact ⟨h, rfl⟩, fun h => by rw [h.2]⟩
  · next h => exact iff_of_false (by rintro ⟨⟩) fun h' => h h'.1

theorem findAddressOrThrow_eq_ok : findAddressOrThrow addresses addressId = .ok a ↔
    Keyed.find SavedAddress.id addressId addresses = some a := by
  rw [findAddressOrThrow]
  split
  · next h => rw [h, Except.ok.injEq, Option.some.injEq]
  · next h => exact iff_of_false (by rintro ⟨⟩) (by rw [h]; rintro ⟨⟩)

theorem mem_ids_of_find (h : Stores addresses book)
    (hfind : Keyed.find SavedAddress.id addressId addresses = some a) :
    addressId ∈ book.entries.map AddressEntry.id := by
  rw [← h.keys, ← key_of_find hfind]
  exact List.mem_map_of_mem (mem_of_find hfind)

/-! ## The methods -/

/-- **`addAddress` adds an entry**, which is the default if it is the first. -/
theorem stores_addAddress {dto : CreateSavedAddressDto} (h : Stores addresses book)
    (hnew : newId ∉ book.entries.map AddressEntry.id)
    (hok : addAddress addresses newId dto = .ok (addresses', a)) :
    Stores addresses' (book.add (dto.entry newId) hnew (dto.isDefault = .value true)) := by
  rw [addAddress, bind_eq_ok] at hok
  obtain ⟨saved, hsave, ⟨⟩⟩ := hok
  obtain ⟨_, rfl⟩ := save_eq_ok.mp hsave
  have hflag : ∀ b : Bool, SavedAddress.flagged ⟨newId, some (trim dto.label),
      some dto.address.cast, some b⟩ = b := by
    intro b
    cases b <;> rfl
  have hadd : Stores _ (book.add (dto.entry newId) hnew (dto.isDefault = .value true)) :=
    h.add (b := ⟨newId, some (trim dto.label), some dto.address.cast,
      some (dto.isDefault = .value true || addresses.length = 0)⟩)
      (fun a => { a with isDefault := some false }) hnew (fun _ => rfl) (fun _ => rfl)
      (by rw [hflag]; simp)
  rw [hflag] at hadd
  exact hadd

theorem stores_setDefault (h : Stores addresses book) (isDefault : Option Bool)
    (hflag : isDefault = some true ↔ book.mark = some addressId) :
    Stores (setDefault addresses addressId isDefault) book :=
  h.alter_flag (fun _ => rfl) fun _ => by simp [SavedAddress.flagged, hflag]

theorem setDefault_setDefault {v w : Option Bool} :
    setDefault (setDefault addresses addressId v) addressId w = setDefault addresses addressId w :=
  alter_alter (f := fun a : SavedAddress => { a with isDefault := v }) fun _ => id

theorem keepDefault_eq (h : Stores addresses book) (addressId : AddressId) :
    keepDefault addresses addressId = addresses := by
  rw [keepDefault, if_neg]
  intro hnot
  rw [Bool.and_eq_true, Bool.not_eq_true', decide_eq_true_eq] at hnot
  have hany : someDefault addresses = true := h.any_iff.mpr (List.ne_nil_of_length_pos hnot.2)
  rw [hnot.1] at hany
  cases hany

/-- **The flag of the default cannot be taken away.** -/
theorem stores_unset {isDefault : Option Bool} (h : Stores addresses book)
    (hmem : addressId ∈ book.entries.map AddressEntry.id) (hunset : isDefault ≠ some true) :
    Stores (keepDefault (setDefault addresses addressId isDefault) addressId) book := by
  by_cases hmark : book.mark = some addressId
  · -- it was the default, so that no flag is left and it gets its own back
    have hnone : someDefault (setDefault addresses addressId isDefault) = false := by
      rw [someDefault, List.any_eq_false]
      intro b hb
      obtain ⟨c, hc, rfl⟩ := h.distinct.mem_alter.mp hb
      split
      · exact fun hflag => hunset (of_decide_eq_true hflag)
      · next hne =>
        rw [h.flags c hc, hmark]
        exact fun heq => hne (Option.some.inj heq).symm
    have hlength : (setDefault addresses addressId isDefault).length > 0 := by
      rw [← h.keys] at hmem
      refine List.length_pos_of_ne_nil fun hnil => ?_
      have hkeys : (setDefault addresses addressId isDefault).map SavedAddress.id =
          addresses.map SavedAddress.id := map_key_alter fun _ => id
      rw [hnil] at hkeys
      exact absurd (hkeys ▸ hmem) List.not_mem_nil
    rw [keepDefault, if_pos (by simp [hnone, hlength]), setDefault_setDefault]
    exact stores_setDefault h _ (iff_of_true rfl hmark)
  · have hset := stores_setDefault h isDefault (iff_of_false hunset hmark)
    rw [keepDefault_eq hset addressId]
    exact hset

/-- **`updateAddress` rewrites an entry**, and moves the mark to it only when asked to. -/
theorem stores_updateAddress {dto : UpdateSavedAddressDto} (h : Stores addresses book)
    (hok : updateAddress addresses addressId dto = .ok (addresses', a)) :
    ∃ hmem, Stores addresses' (if dto.isDefault = .value true then
        (book.rewrite addressId dto.edit dto.id_edit).moveMark addressId hmem
      else book.rewrite addressId dto.edit dto.id_edit) := by
  rw [updateAddress, bind_eq_ok] at hok
  obtain ⟨found, hfind, hok⟩ := hok
  rw [bind_eq_ok] at hok
  obtain ⟨saved, hsave, hok⟩ := hok
  rw [bind_eq_ok] at hok
  obtain ⟨_, _, ⟨⟩⟩ := hok
  obtain ⟨_, rfl⟩ := save_eq_ok.mp hsave
  have hedit : Stores (Keyed.alter SavedAddress.id addressId dto.assign addresses)
      (book.rewrite addressId dto.edit dto.id_edit) :=
    h.rewrite (f := dto.assign) (g := dto.edit) (fun _ => rfl) (fun _ => rfl) fun _ => rfl
  have hmem : addressId ∈ (book.rewrite addressId dto.edit dto.id_edit).entries.map
      AddressEntry.id := by
    rw [Marked.rewrite_entries, map_key_alter fun e he => (dto.id_edit e).trans he]
    exact mem_ids_of_find h (findAddressOrThrow_eq_ok.mp hfind)
  refine ⟨hmem, ?_⟩
  cases dto.isDefault with
  | absent =>
    rw [← keepDefault_eq hedit addressId] at hedit
    exact hedit
  | null => exact stores_unset hedit hmem (by rintro ⟨⟩)
  | value isDefault =>
    cases isDefault with
    | false => exact stores_unset hedit hmem (by rintro ⟨⟩)
    | true =>
      have hmove := hedit.moveMark (fun a => { a with isDefault := some false })
        (fun a => { a with isDefault := some true }) hmem (fun _ => rfl) (fun _ => rfl)
        (fun _ => rfl) fun _ => rfl
      rw [← keepDefault_eq hmove addressId] at hmove
      exact hmove

/-- **`removeAddress` removes an entry.** -/
theorem stores_removeAddress (h : Stores addresses book)
    (hok : removeAddress addresses addressId = .ok addresses') :
    Stores addresses' (book.remove addressId) := by
  rw [removeAddress, bind_eq_ok] at hok
  obtain ⟨found, hfind, hok⟩ := hok
  obtain ⟨_, rfl⟩ := save_eq_ok.mp hok
  rw [findAddressOrThrow_eq_ok] at hfind
  have hflag : found.flagged = true ↔ book.mark = some addressId := by
    rw [h.flags found (mem_of_find hfind), ← key_of_find hfind]
    rfl
  have hremove := h.remove addressId (fun a => { a with isDefault := some true })
    (fun _ => rfl) fun _ => rfl
  by_cases hmark : book.mark = some addressId
  · rw [if_pos hmark] at hremove
    rw [hflag.mpr hmark, Bool.true_and]
    split
    · exact hremove
    · next hnil =>
      rw [decide_eq_true_eq, Nat.not_lt, Nat.le_zero, List.length_eq_zero_iff] at hnil
      rw [hnil]
      have hothers : Keyed.others (fun a : SavedAddress => a.entry.id) addressId addresses = [] :=
        hnil
      rw [hothers] at hremove
      exact hremove
  · rw [if_neg hmark] at hremove
    rw [Bool.eq_false_iff.mpr fun h => hmark (hflag.mp h), Bool.false_and]
    exact hremove

theorem otherEntries_eq (h : Stores addresses book) :
    otherEntries addressId addresses = Keyed.others AddressEntry.id addressId book.entries := by
  rw [otherEntries, ← h.entries]
  exact Eq.symm (others_map fun _ => rfl)

end Methods

/-! ## Any sequence of calls -/

/-- The address that a call is for. -/
def AddressCall.addressId : AddressCall → Option AddressId
  | .addAddress _ => none
  | .updateAddress addressId _ => some addressId
  | .removeAddress addressId => some addressId

/-- Every list shows an address book, and the next id is a fresh one. -/
def AddressBooks.Kept (s : AddressBooks) : Prop :=
  ∀ id addresses, s.users.get id = some addresses →
    ∃ book, Stores addresses book ∧ ∀ e ∈ book.entries, e.id < s.nextId

section Runs

variable {s : AddressBooks} {id : UserId} {call : AddressCall} {newId : AddressId}
  {addresses addresses' : List SavedAddress} {book : AddressBook}

/-- **What a call saves shows an address book**, with the entries that it is not for. -/
theorem AddressCall.stores_run (h : Stores addresses book)
    (hfresh : ∀ e ∈ book.entries, e.id < newId) (hok : call.run newId addresses = .ok addresses') :
    ∃ book', Stores addresses' book' ∧ (∀ e ∈ book'.entries, e.id < newId + 1) ∧
      ∀ addressId, call.addressId = some addressId →
        Keyed.others AddressEntry.id addressId book'.entries =
          Keyed.others AddressEntry.id addressId book.entries := by
  have hlater : ∀ e ∈ book.entries, e.id < newId + 1 := fun e he => Nat.lt_succ_of_lt (hfresh e he)
  cases call with
  | addAddress dto =>
    obtain ⟨⟨saved, a⟩, hadd, ⟨⟩⟩ := bind_eq_ok.mp hok
    have hnew : newId ∉ book.entries.map AddressEntry.id := by
      intro hmem
      obtain ⟨e, he, rfl⟩ := List.mem_map.mp hmem
      exact Nat.lt_irrefl _ (hfresh e he)
    refine ⟨_, stores_addAddress h hnew hadd, fun e he => ?_, by rintro _ ⟨⟩⟩
    rcases List.mem_append.mp he with hold | hlast
    · exact hlater e hold
    · rw [List.mem_singleton.mp hlast]
      exact Nat.lt_succ_self newId
  | updateAddress addressId dto =>
    obtain ⟨⟨saved, a⟩, hupdate, ⟨⟩⟩ := bind_eq_ok.mp hok
    obtain ⟨hmem, hstores⟩ := stores_updateAddress h hupdate
    refine ⟨_, hstores, ?_, ?_⟩
    · intro e he
      have hid : e.id ∈ book.entries.map AddressEntry.id := by
        have hkeys := map_key_alter (k := addressId) (l := book.entries)
          fun e he => (dto.id_edit e).trans he
        rw [← hkeys]
        refine List.mem_map_of_mem ?_
        split at he <;> exact he
      obtain ⟨d, hd, heq⟩ := List.mem_map.mp hid
      exact heq ▸ hlater d hd
    · rintro _ ⟨⟩
      split <;> exact others_alter fun e he => (dto.id_edit e).trans he
  | removeAddress addressId =>
    refine ⟨_, stores_removeAddress h hok, fun e he => ?_, ?_⟩
    · exact hlater e (mem_others.mp he).1
    · rintro _ ⟨⟩
      exact others_others

namespace AddressBooks

/-- All that a call does: nothing, or the list of its user becomes what it saves. -/
theorem step_called (s : AddressBooks) (id : UserId) (call : AddressCall) (reply : DbReply) :
    s.step (.called id call reply) = s ∨
    ∃ addresses addresses', s.users.get id = some addresses ∧
      call.run s.nextId addresses = .ok addresses' ∧
        s.step (.called id call reply) =
          ⟨s.users.modify id fun _ => addresses', s.nextId + 1⟩ := by
  rw [step]
  split
  · next addresses' hsaves =>
    obtain ⟨addresses, hfind, hrun⟩ := bind_eq_ok.mp hsaves
    split
    · rw [findByIdOrThrow] at hfind
      split at hfind
      · next hget =>
        cases hfind
        exact Or.inr ⟨_, addresses', hget, hrun, rfl⟩
      · cases hfind
    · exact Or.inl rfl
  · exact Or.inl rfl

theorem kept_empty : empty.Kept := by
  intro id addresses hget
  cases hget

theorem Kept.step (h : s.Kept) (e : AddressEvent) : (s.step e).Kept := by
  cases e with
  | registered =>
    intro id addresses hget
    rcases Collection.get_create_cases hget with ⟨_, rfl⟩ | ⟨_, hold⟩
    · exact ⟨.empty, Shows.empty, by rintro e ⟨⟩⟩
    · exact h id addresses hold
  | called id call reply =>
    rcases step_called s id call reply with heq | ⟨addresses, addresses', hget, hrun, heq⟩
    · rw [heq]
      exact h
    · rw [heq]
      intro i l hl
      rcases Collection.get_modify_cases hl with ⟨rfl, _, _, rfl⟩ | ⟨_, hold⟩
      · obtain ⟨book, hstores, hfresh⟩ := h id addresses hget
        obtain ⟨book', hstores', hfresh', _⟩ := AddressCall.stores_run hstores hfresh hrun
        exact ⟨book', hstores', hfresh'⟩
      · obtain ⟨book, hstores, hfresh⟩ := h i l hold
        exact ⟨book, hstores, fun e he => Nat.lt_succ_of_lt (hfresh e he)⟩

theorem kept_after (events : List AddressEvent) : (after events).Kept := by
  have hfold : ∀ s : AddressBooks, s.Kept → (events.foldl AddressBooks.step s).Kept := by
    induction events with
    | nil => exact fun s h => h
    | cons e events ih => exact fun s h => ih _ (h.step e)
  exact hfold empty kept_empty

/-- **No entry changes but the one that a call is for.** -/
theorem Kept.others {reply : DbReply} {addressId : AddressId} (h : s.Kept)
    (hcall : call.addressId = some addressId) (other : UserId) :
    ((s.step (.called id call reply)).users.get other).map (otherEntries addressId) =
      (s.users.get other).map (otherEntries addressId) := by
  rcases step_called s id call reply with heq | ⟨addresses, addresses', hget, hrun, heq⟩
  · rw [heq]
  · rw [heq, Collection.get_modify]
    split
    · next hid =>
      subst hid
      obtain ⟨book, hstores, hfresh⟩ := h id addresses hget
      obtain ⟨book', hstores', _, hothers⟩ := AddressCall.stores_run hstores hfresh hrun
      rw [hget, Option.map_some, Option.map_some, Option.map_some, otherEntries_eq hstores',
        otherEntries_eq hstores, hothers addressId hcall]
    · rfl

end AddressBooks

/-- **Exactly one default address**, for every user after any calls; and a call that updates or
removes an address leaves the labels and the addresses of all others as they are. -/
theorem addresses_one_default (events : List AddressEvent) :
    (∀ id addresses, (AddressBooks.after events).users.get id = some addresses →
      OneDefault addresses) ∧
    ∀ id call reply addressId, call.addressId = some addressId → ∀ other,
      ((AddressBooks.after (events ++ [.called id call reply])).users.get other).map
          (otherEntries addressId) =
        ((AddressBooks.after events).users.get other).map (otherEntries addressId) := by
  have hkept := AddressBooks.kept_after events
  constructor
  · intro id addresses hget
    obtain ⟨book, hstores, _⟩ := hkept id addresses hget
    exact hstores.countP
  · intro id call reply addressId hcall other
    rw [AddressBooks.after, List.foldl_append]
    exact hkept.others hcall other

/-- Two addresses of one user; then the default is unset, and then it is removed. -/
def homeAndWork : List AddressEvent :=
  let address : Address := ⟨"1 Test St", none, "Lagos", "Lagos", none, none, none⟩
  [.registered, .called 0 (.addAddress ⟨"Home", address, .absent⟩) .ok,
    .called 0 (.addAddress ⟨"Work ", address, .value true⟩) .ok,
    .called 0 (.updateAddress 1 ⟨.absent, .absent, .value false⟩) .ok]

theorem addresses_one_default_home : ∃ addresses,
    (AddressBooks.after homeAndWork).users.get 0 = some addresses ∧
      addresses.map (fun a => (a.label, a.isDefault)) =
        [(some "Home", some false), (some "Work", some true)] ∧ OneDefault addresses ∧
      ((AddressBooks.after (homeAndWork ++ [.called 0 (.removeAddress 1) .ok])).users.get 0).map
          (otherEntries 1) = some (otherEntries 1 addresses) := by
  have hmap : ((AddressBooks.after homeAndWork).users.get 0).map
      (List.map fun a => (a.label, a.isDefault)) =
        some [(some "Home", some false), (some "Work", some true)] := by
    decide +kernel
  obtain ⟨addresses, hget, hlabels⟩ := Option.map_eq_some_iff.mp hmap
  obtain ⟨hone, hothers⟩ := addresses_one_default homeAndWork
  refine ⟨addresses, hget, hlabels, hone 0 addresses hget, ?_⟩
  rw [hothers 0 (.removeAddress 1) .ok 1 rfl 0, hget]
  rfl

end Runs

end UsersService

end FoodDelivery
