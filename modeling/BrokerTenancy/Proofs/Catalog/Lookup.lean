import BrokerTenancy.Proofs.Store.Readable
import BrokerTenancy.Proofs.Store.Registry
import BrokerTenancy.Proofs.Store.Stopped

/-!
What a registry shows of its resources by name. Each edit that succeeds says what its key holds from
then on, and leaves what is shown under other keys as it was. A key is the namespace and the name
with a slash between them, so it tells the two apart unless a namespace has a slash in itself.
-/

namespace BrokerTenancy

/-! ## Keys -/

/-- Where the one text ends, the other has a slash too, or it has ended there as well. -/
theorem append_slash_eq {first second other rest : List Char}
    (same : first ++ '/' :: second = other ++ '/' :: rest) :
    first = other ∧ second = rest ∨
      (∃ middle, other = first ++ '/' :: middle ∧ second = middle ++ '/' :: rest) ∨
      ∃ middle, first = other ++ '/' :: middle ∧ rest = middle ++ '/' :: second := by
  rcases List.append_eq_append_iff.mp same with ⟨behind, longer, split⟩ | ⟨behind, longer, split⟩
  · cases behind with
    | nil => simp_all
    | cons slash middle =>
        rcases List.cons.inj split with ⟨rfl, follows⟩
        exact .inr (.inl ⟨middle, longer, follows⟩)
  · cases behind with
    | nil => simp_all
    | cons slash middle =>
        rcases List.cons.inj split with ⟨rfl, follows⟩
        exact .inr (.inr ⟨middle, longer, follows⟩)

/-- Two pairs of a namespace and a name have one key if they are the same, or if the one namespace
goes on with a slash where the other ends. -/
theorem Metadata.scoped_key_eq_iff (left right : Metadata) :
    left.scopedKey = right.scopedKey ↔
      left.namespaceName = right.namespaceName ∧ left.name = right.name ∨
        (∃ middle, right.namespaceName = left.namespaceName ++ "/" ++ middle ∧
          left.name = middle ++ "/" ++ right.name) ∨
        ∃ middle, left.namespaceName = right.namespaceName ++ "/" ++ middle ∧
          right.name = middle ++ "/" ++ left.name := by
  constructor
  · intro same
    have slashed (metadata : Metadata) : metadata.scopedKey.toList =
        metadata.namespaceName.toList ++ '/' :: metadata.name.toList := by
      rw [scopedKey, String.toList_append, String.toList_append, List.append_assoc]
      rfl
    have joined (front middle : List Char) :
        String.ofList (front ++ '/' :: middle) =
          String.ofList front ++ "/" ++ String.ofList middle := by
      rw [← String.toList_inj]
      simp
    have texts := congrArg String.toList same
    rw [slashed, slashed] at texts
    rcases append_slash_eq texts with ⟨namespaces, names⟩ | ⟨middle, longer, split⟩ |
      ⟨middle, longer, split⟩
    · exact .inl ⟨String.toList_inj.mp namespaces, String.toList_inj.mp names⟩
    · have namespaces := congrArg String.ofList longer
      have names := congrArg String.ofList split
      rw [joined] at namespaces names
      simp only [String.ofList_toList] at namespaces names
      exact .inr (.inl ⟨_, namespaces, names⟩)
    · have namespaces := congrArg String.ofList longer
      have names := congrArg String.ofList split
      rw [joined] at namespaces names
      simp only [String.ofList_toList] at namespaces names
      exact .inr (.inr ⟨_, namespaces, names⟩)
  · rintro (⟨namespaces, names⟩ | ⟨middle, namespaces, names⟩ | ⟨middle, namespaces, names⟩)
    all_goals simp only [scopedKey, namespaces, names, String.append_assoc]

/-- A caller that waits for a store to be ready goes on once the store serves. -/
theorem Store.serves_of_await_ready {Value : Type} {store : Store Value}
    (done : store.awaitReady = .ok ()) : store.status.serves := by
  rw [awaitReady, readiness] at done
  cases going : store.status.fatal with
  | some cause =>
      rw [going] at done
      cases done
  | none =>
      cases ready : store.status.ready with
      | true =>
          rw [Status.serves, ready, going]
          rfl
      | false =>
          rw [going, ready] at done
          cases done

namespace HostedStore

variable {Value : Type}

/-! ## Serving on -/

section Serving

variable [Storable Value] {hosted : HostedStore Value}

theorem settle_for_ready (ready : hosted.store.status.ready = true) (steps : Nat) :
    (settleFor steps hosted).store.status.ready = true := by
  induction steps generalizing hosted with
  | zero => exact ready
  | succ steps induction =>
      rw [settleFor]
      split
      · exact ready
      · next delivery asked =>
        split
        · apply induction
          rcases next_delivery_awaited asked with ⟨stage, running, awaited, -⟩
          rcases Store.deliver_cases hosted.store stage delivery running awaited with
            ⟨fault, -, moved⟩ | ⟨low, -, -, moved⟩ | ⟨low, high, replayed, -, -, moved⟩ |
            ⟨position, batch, replayed, -, -, -, moved⟩ | ⟨position, batch, fault, -, -, -, moved⟩
          all_goals rw [moved]
          · exact ready
          · exact ready
          · exact Bool.or_eq_true_iff.mpr (.inl ready)
          · exact Bool.or_eq_true_iff.mpr (.inl ready)
          · exact ready
        · exact ready

omit [Storable Value] in
/-- A write that waits succeeds only at a store that has not stopped. -/
theorem result_ok_going {write : Write} {store : Store Value} (waits : write ≠ .finished (.ok ()))
    (done : write.result store = .ok ()) : store.status.fatal = none := by
  cases write with
  | appending => cases done
  | finished result => exact absurd (congrArg Write.finished done) waits
  | applying offset =>
      cases stopped : store.status.fatal with
      | none => rfl
      | some cause =>
          rw [Write.result, Write.observe, stopped] at done
          cases done

/-- A store that served goes on serving behind a write that succeeded. -/
theorem write_serves (bounded : hosted.Bounded) (serves : hosted.store.status.serves) {key : String}
    {value : Option (List UInt8)} {now : Int} (done : (hosted.write key value now).2 = .ok ()) :
    (hosted.write key value now).1.store.status.serves := by
  have ready : hosted.store.status.ready = true := (Bool.and_eq_true_iff.mp serves).1
  rw [HostedStore.write] at done ⊢
  rcases begin_write_cases hosted key value now with ⟨fault, begun⟩ | ⟨write, begun, past⟩
  · rw [begun] at done
    simp only [writeResult] at done
    split at done <;> cases done
  · rw [begun] at done ⊢
    have waits : write ≠ .finished (.ok ()) := by
      rintro rfl
      exact absurd (past hosted.store rfl) (Nat.not_lt_of_le bounded.published)
    simp only [writeResult] at done
    split at done
    · exact absurd (past _ done) (Nat.not_lt_of_le bounded.published)
    · apply Bool.and_eq_true_iff.mpr
      constructor
      · apply settle_for_ready
        exact ready
      · exact Option.isNone_iff_eq_none.mpr (result_ok_going waits done)

end Serving

/-! ## Edits -/

variable [Resource Value] {hosted : HostedStore Value}

namespace Edit

/-- The key that an edit is of. -/
def key : Edit Value → String
  | .register value _ _ => Resource.key value
  | .retract value _ => Resource.key value

/-- What an edit leaves under its key. -/
def outcome : Edit Value → Option Value
  | .register value now _ => some (stamped value now)
  | .retract _ _ => none

/-- What an edit registers is dated, and so is its time. -/
def IsDated : Edit Value → Prop
  | .register value now _ => Resource.IsDated value ∧ now.IsValid
  | .retract _ _ => True

def Succeeds (hosted : HostedStore Value) : Edit Value → Prop
  | .register value now timestamp => ∃ stored, (hosted.register value now timestamp).2 = .ok stored
  | .retract value timestamp => (hosted.retract value timestamp).2 = .ok ()

/-- What the last of some edits of a key leaves there, where `before` was. -/
def last (edits : List (Edit Value)) (key : String) (before : Option Value) : Option Value :=
  (edits.reverse.find? fun edit => edit.key == key).elim before outcome

end Edit

/-- What an edit makes of a snapshot. -/
def Edit.take (snapshot : SortedMap String Value) : Edit Value → SortedMap String Value
  | .register value now _ => snapshot.insert (Resource.key value) (stamped value now)
  | .retract value _ => snapshot.erase (Resource.key value)

/-- Edits one after the other. -/
def editAll (hosted : HostedStore Value) (edits : List (Edit Value)) : HostedStore Value :=
  edits.foldl edit hosted

/-- Each of some edits succeeds in its turn. -/
def Succeed (hosted : HostedStore Value) : List (Edit Value) → Prop
  | [] => True
  | first :: rest => first.Succeeds hosted ∧ Succeed (hosted.edit first) rest

theorem Edit.find_take (snapshot : SortedMap String Value) (edit : Edit Value) (key : String) :
    (edit.take snapshot).find? key =
      if key = edit.key then edit.outcome else snapshot.find? key := by
  cases edit with
  | register value now timestamp => exact SortedMap.find_insert ..
  | retract value timestamp => exact SortedMap.find_erase ..

theorem Edit.erase_take (snapshot : SortedMap String Value) (edit : Edit Value) :
    (edit.take snapshot).erase edit.key = snapshot.erase edit.key := by
  cases edit with
  | register value now timestamp => exact SortedMap.erase_insert ..
  | retract value timestamp => exact SortedMap.erase_erase ..

theorem Edit.last_append (earlier : List (Edit Value)) (edit : Edit Value) (key : String)
    (before : Option Value) :
    last (earlier ++ [edit]) key before =
      if key = edit.key then edit.outcome else last earlier key before := by
  rw [last, List.reverse_append, List.reverse_singleton, List.singleton_append, List.find?_cons]
  by_cases same : key = edit.key
  · simp [same]
  · have other : (edit.key == key) = false := beq_eq_false_iff_ne.mpr (Ne.symm same)
    rw [if_neg same, other, last]

theorem Edit.find_take_all (edits : List (Edit Value)) (snapshot : SortedMap String Value)
    (key : String) :
    (edits.foldl take snapshot).find? key = last edits key (snapshot.find? key) := by
  induction edits using List.reverseRecOn with
  | nil => rfl
  | append_singleton earlier edit induction =>
      rw [List.foldl_append, List.foldl_cons, List.foldl_nil, find_take, induction, last_append]

theorem Edit.is_dated_stamped (keeps : Resource.KeepsCreation Value) {value : Value} {now : Instant}
    (dated : Resource.IsDated value) (valid : now.IsValid) :
    Resource.IsDated (stamped value now) := by
  intro instant made
  have stamp : (Resource.metadata (stamped value now)).creation =
      some ((Resource.metadata value).creation.getD now) := keeps.made value _
  rw [stamp] at made
  cases before : (Resource.metadata value).creation with
  | none =>
      rw [before] at made
      cases made
      exact ⟨now.toText, Instant.of_text_to_text valid⟩
  | some earlier =>
      rw [before] at made
      cases made
      exact dated earlier before

/-! ## Registries in use -/

/-- A store that serves and holds what registries wrote. -/
structure Standing (hosted : HostedStore Value) : Prop where
  orderly : hosted.Orderly
  bounded : hosted.Bounded
  serves : hosted.store.status.serves

theorem standing_opened {log : ResourceLog} {limits : StoreLimits} {opened : HostedStore Value}
    (within : log.BeginsWithin) (recorded : ∀ record ∈ log.records, record.IsKeyed Value)
    (done : openOn log limits = (opened, .ok ())) : opened.Standing := by
  have settled : (create log limits : HostedStore Value).launch.settle = opened :=
    congrArg Prod.fst done
  have seen := congrArg Prod.snd done
  simp only [openOn] at seen
  rw [settled] at seen
  rw [← settled]
  refine ⟨orderly_opened recorded limits, bounded_opened within limits, ?_⟩
  rw [settled]
  split at seen
  · -- A store is not ready before its loop has run.
    cases seen
  · exact Store.serves_of_await_ready seen

/-- An edit that succeeds puts what it says into the snapshot. -/
theorem Standing.edit_ok (faithful : Resource.IsFaithful Value)
    (keeps : Resource.KeepsCreation Value) (standing : hosted.Standing) {edit : Edit Value}
    (dated : edit.IsDated) (succeeds : edit.Succeeds hosted) :
    (hosted.edit edit).Standing ∧
      (hosted.edit edit).store.snapshot = edit.take hosted.store.snapshot := by
  have orderly := standing.orderly.edit faithful edit
  have bounded := standing.orderly.rest.edit_bounded standing.bounded edit
  cases edit with
  | register value now timestamp =>
      rcases succeeds with ⟨stored, done⟩
      have written := put_written done
      constructor
      · exact ⟨orderly, bounded, write_serves standing.bounded standing.serves written⟩
      · have sameKey : Resource.key (stamped value now) = Resource.key value :=
          faithful.key value _
        have back := faithful.decode_dated keeps (Edit.is_dated_stamped keeps dated.1 dated.2)
        rcases standing.orderly.rest.write_ok standing.bounded written with ⟨-, taken⟩
        have outcome : (hosted.log.nextRecord (Resource.key (stamped value now))
            (some (Store.encodeValue (stamped value now))) timestamp).outcome =
              some (stamped value now) := back
        rw [Store.takeRecord, outcome] at taken
        rw [Edit.take, ← sameKey]
        exact taken
  | retract value timestamp =>
      constructor
      · exact ⟨orderly, bounded, write_serves standing.bounded standing.serves succeeds⟩
      · exact (standing.orderly.rest.write_ok standing.bounded succeeds).2

theorem Standing.edit_all (faithful : Resource.IsFaithful Value)
    (keeps : Resource.KeepsCreation Value) (standing : hosted.Standing) {edits : List (Edit Value)}
    (dated : ∀ edit ∈ edits, edit.IsDated) (succeed : hosted.Succeed edits) :
    (hosted.editAll edits).Standing ∧
      (hosted.editAll edits).store.snapshot = edits.foldl Edit.take hosted.store.snapshot := by
  induction edits generalizing hosted with
  | nil => exact ⟨standing, rfl⟩
  | cons edit edits induction =>
      rcases List.forall_mem_cons.mp dated with ⟨first, others⟩
      rcases standing.edit_ok faithful keeps first succeed.1 with ⟨stands, taken⟩
      rcases induction stands others succeed.2 with ⟨standsAfter, takenAfter⟩
      apply And.intro standsAfter
      rw [List.foldl_cons, ← taken]
      exact takenAfter

theorem Standing.in_namespace (standing : hosted.Standing) (namespaceName name : String) :
    hosted.inNamespace namespaceName name =
      .ok (hosted.store.snapshot.find? (Metadata.scopedKey { name, namespaceName })) := by
  rw [inNamespace, Store.get, Store.serving_of_serves standing.serves]
  rfl

theorem Standing.list_filtered (standing : hosted.Standing) (test : Value → Bool) :
    hosted.store.listFiltered test = .ok (hosted.store.snapshot.values.filter test) := by
  rw [Store.listFiltered, Store.list, Store.serving_of_serves standing.serves]
  rfl

omit [Resource Value] in
theorem all_filtered (hosted : HostedStore Value) :
    hosted.all = hosted.store.listFiltered fun _ => true := by
  rw [all, Store.listFiltered]
  cases hosted.store.list with
  | error fault => rfl
  | ok values => exact congrArg Except.ok (List.filter_true values).symm

/-- The resources of other keys than one are those that are left when the key is taken out. -/
theorem values_of_others {snapshot : SortedMap String Value} (keyed : Store.IsKeyed snapshot)
    (key : String) :
    snapshot.values.filter (fun value => Resource.key value != key) =
      (snapshot.erase key).values := by
  rw [SortedMap.values, SortedMap.values, List.filter_map]
  apply congrArg (List.map _)
  apply List.filter_congr
  intro entry member
  have found := (SortedMap.mem_to_list snapshot entry.1 entry.2).mp member
  rw [Function.comp_apply, keyed entry.1 entry.2 found]

/-- A registry was opened over a log of such registries, and some edits of it have succeeded. -/
structure Edited (log : ResourceLog) (limits : StoreLimits) (opened : HostedStore Value)
    (edits : List (Edit Value)) : Prop where
  within : log.BeginsWithin
  recorded : ∀ record ∈ log.records, record.IsKeyed Value
  opens : openOn log limits = (opened, .ok ())
  dated : ∀ edit ∈ edits, edit.IsDated
  succeed : opened.Succeed edits

variable (Value)

/-- What the registries of a kind show by name and in their lists. -/
structure LooksUp : Prop where
  /-- A resource is stored under its namespace and name. -/
  key : ∀ value : Value, Resource.key value = (Resource.metadata value).scopedKey
  /-- A look-up finds what the last edit of its key registered, or nothing if that was a retraction.
  Without any such edit it finds what it found at first, and nothing if the log was empty. -/
  finds : ∀ log limits (opened : HostedStore Value) edits, Edited log limits opened edits →
    ∀ namespaceName name, ∃ before, opened.inNamespace namespaceName name = .ok before ∧
      (log.records = [] → before = none) ∧
      (opened.editAll edits).inNamespace namespaceName name =
        .ok (Edit.last edits (Metadata.scopedKey { name, namespaceName }) before)
  /-- One more edit changes nothing of what is shown of resources with other keys. -/
  spares : ∀ log limits (opened : HostedStore Value) edits edit,
    Edited log limits opened (edits ++ [edit]) →
    let before := opened.editAll edits
    let after := before.edit edit
    (∀ namespaceName name, Metadata.scopedKey { name, namespaceName } ≠ edit.key →
      after.inNamespace namespaceName name = before.inNamespace namespaceName name) ∧
    (∃ shown left, before.all = .ok shown ∧ after.all = .ok left ∧
      (left.filter fun value => Resource.key value != edit.key) =
        shown.filter fun value => Resource.key value != edit.key) ∧
    ∀ test, ∃ shown left, before.store.listFiltered test = .ok shown ∧
      after.store.listFiltered test = .ok left ∧
      (left.filter fun value => Resource.key value != edit.key) =
        shown.filter fun value => Resource.key value != edit.key

variable {Value}

theorem succeed_append {earlier later : List (Edit Value)} :
    hosted.Succeed (earlier ++ later) ↔
      hosted.Succeed earlier ∧ (hosted.editAll earlier).Succeed later := by
  induction earlier generalizing hosted with
  | nil => exact Iff.of_eq (true_and _).symm
  | cons first rest induction =>
      rw [List.cons_append, Succeed, Succeed, induction, and_assoc]
      rfl

theorem Edited.standing {log : ResourceLog} {limits : StoreLimits} {edits : List (Edit Value)}
    (faithful : Resource.IsFaithful Value) (keeps : Resource.KeepsCreation Value)
    (edited : Edited log limits hosted edits) :
    (hosted.editAll edits).Standing ∧
      (hosted.editAll edits).store.snapshot = edits.foldl Edit.take hosted.store.snapshot :=
  (standing_opened edited.within edited.recorded edited.opens).edit_all faithful keeps edited.dated
    edited.succeed

theorem find_opened_empty {log : ResourceLog} {limits : StoreLimits} (empty : log.records = [])
    (done : openOn log limits = (hosted, .ok ())) (key : String) :
    hosted.store.snapshot.find? key = none := by
  let launched : HostedStore Value := (create log limits).launch
  have settled : launched.settle = hosted := congrArg Prod.fst done
  rcases settle_for_takes (launched.log.records.length + 3) launched with ⟨part, own, taken⟩
  have nothing : part = [] := by
    apply List.eq_nil_iff_forall_not_mem.mpr
    intro record member
    have held : record ∈ log.records := own record member
    rw [empty] at held
    cases held
  rw [← settled, settle, taken, nothing]
  rfl

/-- Both stores serve, and under other keys than one their snapshots are the same. -/
theorem Standing.spares {after : HostedStore Value} (standing : hosted.Standing)
    (standingAfter : after.Standing) {key : String}
    (others : after.store.snapshot.erase key = hosted.store.snapshot.erase key)
    (test : Value → Bool) :
    ∃ shown left, hosted.store.listFiltered test = .ok shown ∧
      after.store.listFiltered test = .ok left ∧
      (left.filter fun value => Resource.key value != key) =
        shown.filter fun value => Resource.key value != key := by
  refine ⟨_, _, standing.list_filtered test, standingAfter.list_filtered test, ?_⟩
  simp only [List.filter_comm _ test, values_of_others standing.orderly.keyed,
    values_of_others standingAfter.orderly.keyed, others]

theorem looks_up (faithful : Resource.IsFaithful Value) (keeps : Resource.KeepsCreation Value)
    (key : ∀ value : Value, Resource.key value = (Resource.metadata value).scopedKey) :
    LooksUp Value where
  key := key
  finds log limits opened edits edited namespaceName name := by
    have opens := standing_opened edited.within edited.recorded edited.opens
    rcases edited.standing faithful keeps with ⟨standing, taken⟩
    refine ⟨_, opens.in_namespace namespaceName name, ?_, ?_⟩
    · intro empty
      exact find_opened_empty empty edited.opens _
    · rw [standing.in_namespace, taken, Edit.find_take_all]
  spares log limits opened edits edit edited := by
    rcases succeed_append.mp edited.succeed with ⟨earlier, succeeds, -⟩
    have datedEarlier (other : Edit Value) (member : other ∈ edits) : other.IsDated :=
      edited.dated other (List.mem_append_left _ member)
    have dated : edit.IsDated :=
      edited.dated edit (List.mem_append_right _ (List.mem_singleton_self edit))
    have before : Edited log limits opened edits :=
      ⟨edited.within, edited.recorded, edited.opens, datedEarlier, earlier⟩
    rcases before.standing faithful keeps with ⟨standing, -⟩
    rcases standing.edit_ok faithful keeps dated succeeds with ⟨standingAfter, taken⟩
    have others : ((opened.editAll edits).edit edit).store.snapshot.erase edit.key =
        (opened.editAll edits).store.snapshot.erase edit.key := by
      rw [taken, Edit.erase_take]
    refine ⟨?_, ?_, standing.spares standingAfter others⟩
    · intro namespaceName name different
      rw [standing.in_namespace, standingAfter.in_namespace, taken, Edit.find_take,
        if_neg different]
    · rw [all_filtered, all_filtered]
      exact standing.spares standingAfter others fun _ => true

/-- Entries, streams and connectors are found by the last edit of their key, and no edit changes
what is shown of other keys. Keys differ for all pairs of a namespace and a name, except where the
one namespace goes on with a slash where the other ends. -/
theorem named_kinds_look_up :
    LooksUp AccessControlEntry ∧ LooksUp Stream ∧ LooksUp Connector ∧
      ∀ left right : Metadata, left.scopedKey = right.scopedKey ↔
        left.namespaceName = right.namespaceName ∧ left.name = right.name ∨
          (∃ middle, right.namespaceName = left.namespaceName ++ "/" ++ middle ∧
            left.name = middle ++ "/" ++ right.name) ∨
          ∃ middle, left.namespaceName = right.namespaceName ++ "/" ++ middle ∧
            right.name = middle ++ "/" ++ left.name :=
  ⟨looks_up AccessControlEntry.is_faithful ⟨fun _ => rfl, fun _ _ => rfl⟩ fun _ => rfl,
    looks_up Stream.is_faithful ⟨fun _ => rfl, fun _ _ => rfl⟩ fun _ => rfl,
    looks_up Connector.is_faithful ⟨fun _ => rfl, fun _ _ => rfl⟩ fun _ => rfl,
    Metadata.scoped_key_eq_iff⟩

/-- A registry of streams over an empty log in memory. -/
def streamRegistry : HostedStore Stream × Outcome Unit := openOn (.memory { name := "streams" }) {}

/-- When streams are registered here. -/
def harvest : Instant := ⟨⟨2026, 9, 1⟩, 6, 30, 0, 250000000⟩

def stream (namespaceName name : String) : Stream where
  metadata := { name, namespaceName, cluster := "north" }

/-- One stream is registered and stays, another is registered and retracted. -/
def coarseRetracted : List (Edit Stream) :=
  [.register (stream "mill" "fine") harvest 0, .register (stream "mill" "coarse") harvest 1,
    .retract (stream "mill" "coarse") 2]

theorem named_kinds_look_up_streams :
    streamRegistry.1.Succeed coarseRetracted ∧
      (streamRegistry.1.editAll coarseRetracted).inNamespace "mill" "fine" =
        .ok (some (stamped (stream "mill" "fine") harvest)) ∧
      (streamRegistry.1.editAll coarseRetracted).inNamespace "mill" "coarse" = .ok none := by
  have opens : streamRegistry.2 = .ok () := by decide +kernel
  have valid : harvest.IsValid := ⟨rfl, by decide, by decide, by decide, by decide⟩
  have undated (name : String) : Resource.IsDated (stream "mill" name) := by
    rintro instant ⟨⟩
  have first : (streamRegistry.1.register (stream "mill" "fine") harvest 0).2 =
      .ok (stamped (stream "mill" "fine") harvest) := by decide +kernel
  have second : ((streamRegistry.1.register (stream "mill" "fine") harvest 0).1.register
      (stream "mill" "coarse") harvest 1).2 = .ok (stamped (stream "mill" "coarse") harvest) := by
    decide +kernel
  have third : (((streamRegistry.1.register (stream "mill" "fine") harvest 0).1.register
      (stream "mill" "coarse") harvest 1).1.retract (stream "mill" "coarse") 2).2 = .ok () := by
    decide +kernel
  have edited : Edited (.memory { name := "streams" }) {} streamRegistry.1 coarseRetracted := by
    refine ⟨?_, ?_, Prod.ext rfl opens, ?_, ⟨_, first⟩, ⟨_, second⟩, third, trivial⟩
    · intro low told
      cases told
      exact Nat.le_refl 0
    · intro record member
      cases member
    · simp only [coarseRetracted, List.forall_mem_cons]
      exact ⟨⟨undated "fine", valid⟩, ⟨undated "coarse", valid⟩, trivial,
        fun _ member => absurd member List.not_mem_nil⟩
  apply And.intro edited.succeed
  constructor
  · rcases named_kinds_look_up.2.1.finds _ _ _ _ edited "mill" "fine" with ⟨before, -, -, found⟩
    exact found
  · rcases named_kinds_look_up.2.1.finds _ _ _ _ edited "mill" "coarse" with ⟨before, -, -, found⟩
    exact found

/-- A stream whose namespace has a slash is found as one of another namespace, and is gone when a
stream of the other one is retracted. -/
theorem slash_joins_namespaces :
    streamRegistry.2 = .ok () ∧
      streamRegistry.1.inNamespace "mill" "flour/fine" = .ok none ∧
      (streamRegistry.1.register (stream "mill/flour" "fine") harvest 0).2 =
        .ok (stamped (stream "mill/flour" "fine") harvest) ∧
      (streamRegistry.1.register (stream "mill/flour" "fine") harvest 0).1.inNamespace
        "mill" "flour/fine" = .ok (some (stamped (stream "mill/flour" "fine") harvest)) ∧
      ((streamRegistry.1.register (stream "mill/flour" "fine") harvest 0).1.retract
        (stream "mill" "flour/fine") 1).2 = .ok () ∧
      ((streamRegistry.1.register (stream "mill/flour" "fine") harvest 0).1.retract
        (stream "mill" "flour/fine") 1).1.inNamespace "mill/flour" "fine" = .ok none := by
  decide +kernel

end HostedStore

end BrokerTenancy
