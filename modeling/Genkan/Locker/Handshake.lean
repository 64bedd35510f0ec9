import Genkan.Locker.WorkerChannel

/-! # The handshake

The locker and the worker look one user up in one database, each by rules of its own.  What the locker resolves
is what the worker says it is, so that the worker is turned away only if its first message does not arrive whole.
-/

namespace Genkan.Locker

open Foundations Foundations.ByteStream LockAuth

/-! ## The command line -/

def childSocketFd : Nat := 3

/-- The arguments of `spawn_worker`, with the number of the process that calls it. -/
def workerArguments (path : List UInt8) (pid : Nat) : List (List UInt8) :=
  [path, intoBytes "--fd", intoBytes (toString childSocketFd), intoBytes "--parent-pid", intoBytes (toString pid)]

theorem parseArgument_toString {value : Nat} (fits : (value : Int) ≤ I32.maximum) :
    parseArgument (intoBytes (toString value)) = some (value : Int) := by
  rw [parseArgument, fromUTF8_intoBytes, Option.bind_some, parseI32_toString fits]

theorem parseArguments_worker (path : List UInt8) {pid : Nat} (positive : 1 < pid)
    (fits : (pid : Int) ≤ I32.maximum) :
    parseArguments (workerArguments path pid) = some ((childSocketFd : Int), (pid : Int)) := by
  have isFd : parseArgument (intoBytes (toString childSocketFd)) = some (childSocketFd : Int) :=
    parseArgument_toString (by decide)
  have isPid := parseArgument_toString fits
  have isParent : (1 : Int) < pid := by omega
  rw [parseArguments, workerArguments]
  dsimp only [List.tail_cons]
  rw [if_pos ⟨rfl, rfl⟩, isFd, isPid]
  simp [Option.filter, isParent, childSocketFd]

/-! ## The lookup -/

/-- The worker reads no more of an entry than its name. -/
def named (answer : Lookup Passwd) : Lookup (List UInt8) := ⟨answer.status, answer.entry.bind (·.name)⟩

theorem settle_named (call : Nat → Lookup Passwd) (size : Nat) (positive : 0 < size) :
    settle (fun size => named (call size)) size positive = named (settle call size positive) := by
  induction size, positive using settle.induct call with
  | case1 size positive next grows inductionHypothesis =>
    have alsoGrows : nextNssBuffer (named (call size)).status size = some next := grows
    rw [settle, settle]
    split
    next other isNext =>
      cases alsoGrows.symm.trans isNext
      split
      next other isNext =>
        cases grows.symm.trans isNext
        exact inductionHypothesis
      next ends => cases grows.symm.trans ends
    next ends => cases alsoGrows.symm.trans ends
  | case2 size positive ends =>
    have alsoEnds : nextNssBuffer (named (call size)).status size = none := ends
    rw [settle, settle]
    split
    next next grows => cases alsoEnds.symm.trans grows
    next =>
      split
      next next grows => cases ends.symm.trans grows
      next => rfl

theorem lookUp_named (call : Nat → Lookup Passwd) :
    lookUp (fun size => named (call size)) = (lookUp call).bind (·.name) := by
  rw [lookUp, lookUp, settle_named]
  generalize settle call initialNssBuffer _ = answer
  obtain ⟨status, entry⟩ := answer
  by_cases failed : status = 0 <;> simp [named, failed]

variable {isFormatControl : Char → Bool} {database : UInt32 → Nat → Lookup Passwd} {uid : UInt32} {identity : Identity}

theorem copyString_eq_ok {value : Option (List UInt8)} {text : String} :
    copyString value = .ok text ↔
      value.bind (fun value => String.fromUTF8? ⟨(value.takeWhile (· ≠ 0)).toArray⟩) = some text := by
  rw [copyString]
  cases value.bind fun value => String.fromUTF8? ⟨(value.takeWhile (· ≠ 0)).toArray⟩ <;> simp

theorem utf8ByteSize_ofList_le (characters : List Char) :
    (String.ofList characters).utf8ByteSize ≤ 4 * characters.length := by
  induction characters with
  | nil => exact Nat.le_refl _
  | cons character characters inductionHypothesis =>
    have size := character.utf8Size_le_four
    rw [String.ofList_cons, String.utf8ByteSize_append, String.utf8ByteSize_singleton, List.length_cons]
    omega

/-- A name of a user can be sent: it is short. -/
theorem validUsername_fits {username : String} (valid : Greeter.validUsername isFormatControl username = true) :
    (intoBytes username).length ≤ maxMessageBytes := by
  simp only [Greeter.validUsername, Bool.decide_and, Bool.and_eq_true, decide_eq_true_eq] at valid
  have size := utf8ByteSize_ofList_le username.toList
  rw [String.ofList_toList] at size
  rw [length_intoBytes, maxMessageBytes]
  omega

/-- The identity has the name that the worker finds for the same user, and the name can be sent. -/
theorem resolve_eq_ok (resolved : resolve isFormatControl database uid = .ok identity) :
    identity.uid = uid ∧
      usernameForUid (fun uid size => named (database uid size)) uid = some identity.username ∧
        (intoBytes identity.username).length ≤ maxMessageBytes := by
  simp only [resolve] at resolved
  split at resolved
  next => cases resolved
  next succeeded =>
    split at resolved
    next => cases resolved
    next entry found =>
      split at resolved
      next => cases resolved
      next username copied =>
        split at resolved
        next valid =>
          cases resolved
          refine ⟨rfl, ?_, validUsername_fits valid⟩
          have isEntry : lookUp (database uid) = some entry := by
            rw [lookUp]
            exact (if_neg succeeded).trans found
          rw [usernameForUid, lookUp_named, isEntry]
          exact copyString_eq_ok.mp copied
        next => cases resolved

/-! ## The first message -/

/-- Of a message that can be sent, only the whole frame is received. -/
theorem receive_whole {message : Message} (audible : (LockAuth.Event.sent message).Audible) {stream : List Piece}
    (reliable : Reliable stream) {rest : List UInt8} (delivered : content stream <+: message.bytes ++ rest) :
    (receive stream).1 = .ok message ↔ message.bytes <+: content stream := by
  obtain ⟨frame, isBytes, isMessage⟩ := Message.bytes_frame audible
  rw [isBytes] at delivered ⊢
  constructor
  · intro receives
    by_contra missing
    obtain ⟨left, cut⟩ := (List.prefix_or_prefix_of_prefix delivered (List.prefix_append _ _)).resolve_right missing
    have proper : left ≠ [] := by
      rintro rfl
      rw [List.append_nil] at cut
      exact missing (cut ▸ List.prefix_refl _)
    have closed := receive_truncated reliable frame.bounded cut proper
    cases receives.symm.trans closed
  · rintro ⟨left, holds⟩
    exact (receive_frame reliable frame.bounded holds.symm).1.trans isMessage

/-- A locker that resolved its identity and the worker that it spawns agree, whatever is asked and answered
later: the worker finds the identity's name if it is bound to the locker and keeps nothing of it, and it is
accepted exactly when the frame of its first message has arrived whole. -/
theorem resolved_worker_accepted (isFormatControl : Char → Bool) (database : UInt32 → Nat → Lookup Passwd)
    (uid : UInt32) (identity : Identity) (resolved : resolve isFormatControl database uid = .ok identity)
    (host : Host) (path : List UInt8) (pid : Nat) (positive : 1 < pid) (fits : (pid : Int) ≤ I32.maximum)
    (arguments : host.arguments = workerArguments path pid) (sameUser : host.uid = uid)
    (sameDatabase : host.getpwuid = fun uid size => named (database uid size)) :
    host.identify =
        (if host.bindToParent pid && host.setCloseOnExec && host.closeExtraDescriptors &&
            host.effectiveUid = host.uid && host.effectiveGid = host.gid then some identity.username else none) ∧
      ∀ incoming writes stream, Reliable stream →
        content stream <+: written (host.run ⟨incoming, writes, []⟩).1.log →
          ((∃ rest, acceptWorker identity stream = .ok rest) ↔
            (Message.ready identity.uid identity.username).bytes <+: content stream) := by
  obtain ⟨isUid, isNamed, short⟩ := resolve_eq_ok resolved
  have identified : host.identify =
      (if host.bindToParent pid && host.setCloseOnExec && host.closeExtraDescriptors &&
          host.effectiveUid = host.uid && host.effectiveGid = host.gid then some identity.username else none) := by
    rw [Host.identify, arguments, parseArguments_worker path positive fits, sameDatabase, sameUser, isNamed]
    rfl
  have ready : (LockAuth.Event.sent (.ready identity.uid identity.username)).Audible :=
    ⟨short, usernameForUid_plain isNamed⟩
  refine ⟨identified, ?_⟩
  intro incoming writes stream reliable delivered
  have leaves := host.run_leaves incoming writes
  generalize (host.run ⟨incoming, writes, []⟩).1.log = log at leaves delivered
  generalize (host.run ⟨incoming, writes, []⟩).2 = clean at leaves
  have accepts : (∃ rest, acceptWorker identity stream = .ok rest) ↔
      (receive stream).1 = .ok (.ready identity.uid identity.username) := by
    constructor
    · rintro ⟨rest, accepted⟩
      rw [acceptWorker_eq_ok.mp accepted]
    · intro receives
      exact ⟨_, acceptWorker_eq_ok.mpr (Prod.ext receives rfl)⟩
  rw [accepts]
  cases leaves with
  | nothing => exact @receive_whole _ ready _ reliable [] (delivered.trans List.nil_prefix)
  | @said username said worker clean isUser trace exits granted =>
    have isUsername : username = identity.username := by
      rw [identified, Option.ite_none_right_eq_some] at isUser
      exact (Option.some.inj isUser.2).symm
    subst isUsername
    rw [sameUser, ← isUid] at delivered
    exact receive_whole ready reliable delivered

def sampleDatabase (_ : UInt32) (size : Nat) : Lookup Passwd :=
  if size < 4096 then ⟨erange, none⟩ else ⟨0, some ⟨some [97, 0], some [65, 44, 66, 0]⟩⟩

def sampleSpawned : Host :=
  { sampleHost with
    arguments := workerArguments (intoBytes "worker") 7
    getpwuid := fun uid size => named (sampleDatabase uid size) }

/-- A worker that is accepted byte by byte. -/
theorem resolved_worker_accepted_sample :
    sampleSpawned.identify = some "a" ∧
      ∃ rest, acceptWorker ⟨1000, "a", "A"⟩ (oneByOne (written (sampleSpawned.run ⟨[], [], []⟩).1.log)) =
        .ok rest := by
  have agrees := resolved_worker_accepted (fun _ => false) sampleDatabase 1000 ⟨1000, "a", "A"⟩ (by decide +kernel)
    sampleSpawned (intoBytes "worker") 7 (by decide) (by decide) rfl rfl rfl
  refine ⟨agrees.1.trans (by decide +kernel), ?_⟩
  rw [agrees.2 [] [] _ (oneByOne_reliable _) ⟨[], by rw [List.append_nil, content_oneByOne]⟩, content_oneByOne]
  decide +kernel

end Genkan.Locker
