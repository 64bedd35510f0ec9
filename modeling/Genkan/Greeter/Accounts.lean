import Genkan.Foundations.Latest
import Genkan.Greeter.AccountLabel
import Genkan.Greeter.App
import Mathlib.Data.Prod.Lex
import Mathlib.Data.String.Basic

/-! # The discovered accounts

What the account service answers about each of its users becomes the list of accounts that the greeter offers,
and one of them may be preferred.  The service promises no order, and the list does not depend on one.
-/

namespace Genkan.Greeter

open Foundations Foundations.Text

structure Properties where
  username : String
  realName : String
  systemAccount : Bool
  locked : Bool
  lastLogin : Option Int
  deriving DecidableEq, Repr

section Discovery

variable (isFormatControl : Char → Bool)

def validUsername (username : String) : Bool :=
  username ≠ "" ∧ username.toList.length ≤ 256 ∧
    username.toList.all fun character =>
      !isControl character && !isWhitespace character && !isFormatControl character

theorem validUsername_named {username : String} (valid : validUsername isFormatControl username = true) :
    username ≠ "" := by
  simp only [validUsername, Bool.decide_and, Bool.and_eq_true, decide_eq_true_eq] at valid
  exact valid.1

namespace Account

def shownName (properties : Properties) : String :=
  if properties.realName = "" then properties.username
  else
    match presentationLabel isFormatControl properties.realName.toList with
    | some label => .ofList label
    | none => properties.username

def fromProperties (properties : Properties) : Option Account :=
  if properties.systemAccount || properties.locked then none
  else if valid : validUsername isFormatControl properties.username = true then
    some
      { username := properties.username
        displayName := shownName isFormatControl properties
        lastLogin := properties.lastLogin.filter (0 < ·)
        named := validUsername_named isFormatControl valid }
  else none

/-- What the accounts are sorted by. -/
def key (account : Account) : String ×ₗ String := toLex (account.displayName, account.username)

end Account

variable {Error : Type}

/-- One pass of the loop, with the accounts so far and the first error. -/
def collectResult (collected : List Account × Option Error) (result : Except Error Properties) :
    List Account × Option Error :=
  match result with
  | .ok properties => (collected.1 ++ (Account.fromProperties isFormatControl properties).toList, collected.2)
  | .error error => (collected.1, collected.2.or (some error))

def collectAccounts (results : List (Except Error Properties)) : Except Error (List Account) :=
  match results.foldl (collectResult isFormatControl) ([], none) with
  | ([], some error) => .error error
  | (accounts, _) => .ok (sortedBy Account.key accounts)

/-! ## What is collected -/

def usable (results : List (Except Error Properties)) : List Account :=
  results.filterMap fun result => result.toOption.bind (Account.fromProperties isFormatControl)

def failures (results : List (Except Error Properties)) : List Error :=
  results.filterMap fun
    | .ok _ => none
    | .error error => some error

theorem foldl_collectResult (results : List (Except Error Properties)) (collected : List Account × Option Error) :
    results.foldl (collectResult isFormatControl) collected =
      (collected.1 ++ usable isFormatControl results, collected.2.or (failures results).head?) := by
  induction results generalizing collected with
  | nil => simp [usable, failures]
  | cons result results inductionHypothesis =>
    rw [List.foldl_cons, inductionHypothesis]
    cases result with
    | ok properties =>
      cases used : Account.fromProperties isFormatControl properties <;>
        simp [collectResult, usable, failures, used, Except.toOption]
    | error error =>
      obtain ⟨accounts, first⟩ := collected
      cases first <;> simp [collectResult, usable, failures, Except.toOption]

theorem collectAccounts_eq (results : List (Except Error Properties)) :
    collectAccounts isFormatControl results =
      match usable isFormatControl results, (failures results).head? with
      | [], some error => .error error
      | accounts, _ => .ok (sortedBy Account.key accounts) := by
  rw [collectAccounts, foldl_collectResult, List.nil_append, Option.none_or]
  cases usable isFormatControl results <;> cases (failures results).head? <;> rfl

theorem mem_failures {results : List (Except Error Properties)} {error : Error} :
    error ∈ failures results ↔ .error error ∈ results := by
  rw [failures, List.mem_filterMap]
  constructor
  · rintro ⟨result, member, isError⟩
    cases result with
    | ok properties => cases isError
    | error other =>
      cases isError
      exact member
  · exact fun member => ⟨_, member, rfl⟩

theorem collectAccounts_ok {results : List (Except Error Properties)}
    (some : usable isFormatControl results ≠ [] ∨ failures results = []) :
    collectAccounts isFormatControl results = .ok (sortedBy Account.key (usable isFormatControl results)) := by
  rw [collectAccounts_eq]
  split
  next nothing failed =>
    cases some with
    | inl offered => exact absurd nothing offered
    | inr unfailed => simp [unfailed] at failed
  next => rfl

theorem collectAccounts_error {results : List (Except Error Properties)} {error : Error}
    (nothing : usable isFormatControl results = []) (first : (failures results).head? = some error) :
    collectAccounts isFormatControl results = .error error := by
  rw [collectAccounts_eq, nothing, first]

/-! ## What is offered -/

/-- A name that can be shown on one line. -/
def Shown (name : String) : Prop := name ≠ "" ∧ ∀ character ∈ name.toList, isVisible isFormatControl character = true

theorem validUsername_shown {username : String} (valid : validUsername isFormatControl username = true) :
    Shown isFormatControl username := by
  refine ⟨validUsername_named isFormatControl valid, ?_⟩
  simp only [validUsername, Bool.decide_and, Bool.and_eq_true, decide_eq_true_eq, List.all_eq_true] at valid
  intro character member
  have visible := valid.2.2 character member
  simp only [Bool.not_eq_true'] at visible
  simp [isVisible, visible.1.1, visible.2]

theorem presentationLabel_shown {value label : List Char}
    (isLabel : presentationLabel isFormatControl value = some label) : Shown isFormatControl (.ofList label) := by
  simp only [presentationLabel, Option.ite_none_left_eq_some, Option.some.injEq] at isLabel
  obtain ⟨shown, rfl⟩ := isLabel
  constructor
  · intro isEmpty
    apply shown
    rw [← String.toList_ofList (l := trimEnd _), isEmpty]
    rfl
  · intro character member
    rw [String.toList_ofList] at member
    have kept := List.mem_of_mem_take ((List.rdropWhile_prefix _ _).subset member)
    exact (List.mem_filter.mp kept).2

theorem shownName_shown {properties : Properties}
    (valid : validUsername isFormatControl properties.username = true) :
    Shown isFormatControl (Account.shownName isFormatControl properties) := by
  rw [Account.shownName]
  split
  next => exact validUsername_shown isFormatControl valid
  next =>
    split
    next label isLabel => exact presentationLabel_shown isFormatControl isLabel
    next => exact validUsername_shown isFormatControl valid

/-- The accounts that are offered after these answers. -/
structure Offers (results : List (Except Error Properties)) (accounts : List Account) : Prop where
  complete : accounts.Perm (usable isFormatControl results)
  sorted : accounts.Pairwise fun left right => left.key ≤ right.key
  shown : ∀ account ∈ accounts, validUsername isFormatControl account.username = true ∧
    Shown isFormatControl account.displayName

theorem usable_shown {results : List (Except Error Properties)} {account : Account}
    (member : account ∈ usable isFormatControl results) :
    validUsername isFormatControl account.username = true ∧ Shown isFormatControl account.displayName := by
  simp only [usable, List.mem_filterMap, Option.bind_eq_some_iff, Account.fromProperties, Option.ite_none_left_eq_some,
    Option.dite_none_right_eq_some, Option.some.injEq] at member
  obtain ⟨_, _, properties, _, _, valid, rfl⟩ := member
  exact ⟨valid, shownName_shown isFormatControl valid⟩

theorem offers_sortedBy (results : List (Except Error Properties)) :
    Offers isFormatControl results (sortedBy Account.key (usable isFormatControl results)) where
  complete := List.perm_insertionSort _ _
  sorted := sortedBy_pairwise Account.key _
  shown _ member := usable_shown isFormatControl (mem_sortedBy.mp member)

/-! ## Any order -/

/-- A single account stays single, and several stay several. -/
theorem single_perm (left right : List Account) :
    left.Perm right →
      (match left with
        | [account] => some account
        | _ => none) =
        match right with
        | [account] => some account
        | _ => none := by
  intro perm
  match left, right, perm.length_eq with
  | [], [], _ => rfl
  | [account], [other], _ => rw [List.singleton_perm_singleton.mp perm]
  | _ :: _ :: _, _ :: _ :: _, _ => rfl

theorem preferredAccount_perm {left right : List Account} (perm : left.Perm right) :
    preferredAccount left = preferredAccount right := by
  have anyone : left.any (fun account => account.lastLogin.isNone) =
      right.any fun account => account.lastLogin.isNone := by
    rw [Bool.eq_iff_iff, List.any_eq_true, List.any_eq_true]
    simp only [perm.mem_iff]
  have latest : (left.filterMap Account.lastLogin).max? = (right.filterMap Account.lastLogin).max? := by
    apply Option.ext
    intro time
    rw [List.max?_eq_some_iff, List.max?_eq_some_iff]
    simp only [(perm.filterMap Account.lastLogin).mem_iff]
  rw [preferredAccount, preferredAccount, perm.length_eq, anyone, latest]
  split
  next single =>
    obtain ⟨account, isSingle⟩ := List.length_eq_one_iff.mp single
    subst isSingle
    rw [List.perm_singleton.mp perm]
  next =>
    split
    next => rfl
    next =>
      split
      next => rfl
      next latest _ =>
        exact single_perm _ _ (perm.filter fun account => account.lastLogin == some latest)

theorem usable_perm {results others : List (Except Error Properties)} (perm : results.Perm others) :
    (usable isFormatControl results).Perm (usable isFormatControl others) := perm.filterMap _

/-- Accounts of different names are sorted in one way only. -/
theorem Offers.unique {results : List (Except Error Properties)} {accounts others : List Account}
    (offers : Offers isFormatControl results accounts) (perm : accounts.Perm others)
    (sorted : others.Pairwise fun left right => left.key ≤ right.key)
    (distinct : ((usable isFormatControl results).map Account.username).Nodup) : accounts = others := by
  have different := (offers.complete.map Account.username).nodup_iff.mpr distinct
  refine List.Perm.eq_of_pairwise ?_ offers.sorted sorted perm
  intro left right isLeft isRight before after
  have same : left.key = right.key := le_antisymm before after
  have sameName : left.username = right.username := congrArg (fun key => (ofLex key).2) same
  exact List.inj_on_of_nodup_map different isLeft (perm.mem_iff.mpr isRight) sameName

/-- The order in which the users are listed does not matter.  Either both orders offer accounts: the same ones,
each with a name that can be shown, sorted, and with the same account preferred, and in the same order if no two
have one name; or both orders fail, since no user can be offered and one could not be asked. -/
theorem discovery_any_order (isFormatControl : Char → Bool) (results others : List (Except Error Properties))
    (perm : results.Perm others) :
    (∃ accounts accounts', collectAccounts isFormatControl results = .ok accounts ∧
        collectAccounts isFormatControl others = .ok accounts' ∧ Offers isFormatControl results accounts ∧
        Offers isFormatControl others accounts' ∧ accounts.Perm accounts' ∧
        preferredAccount accounts = preferredAccount accounts' ∧
        (((usable isFormatControl results).map Account.username).Nodup → accounts = accounts')) ∨
      ∃ error error', collectAccounts isFormatControl results = .error error ∧
        collectAccounts isFormatControl others = .error error' ∧ usable isFormatControl results = [] ∧
        .error error ∈ results ∧ .error error' ∈ results := by
  have same := usable_perm isFormatControl perm
  have reordered : (failures results).Perm (failures others) := perm.filterMap _
  by_cases fails : usable isFormatControl results = [] ∧ failures results ≠ []
  · obtain ⟨nothing, failed⟩ := fails
    have nothing' : usable isFormatControl others = [] := List.nil_perm.mp (nothing ▸ same)
    have failed' : failures others ≠ [] := fun none => failed (List.perm_nil.mp (none ▸ reordered))
    have first := List.head?_eq_some_head failed
    have first' := List.head?_eq_some_head failed'
    refine .inr ⟨_, _, collectAccounts_error isFormatControl nothing first,
      collectAccounts_error isFormatControl nothing' first', nothing, mem_failures.mp (List.head_mem failed), ?_⟩
    exact perm.mem_iff.mpr (mem_failures.mp (List.head_mem failed'))
  · rw [not_and_or, not_not] at fails
    have offered := collectAccounts_ok isFormatControl fails
    have fails' : usable isFormatControl others ≠ [] ∨ failures others = [] := by
      refine fails.imp (fun some none => some (List.perm_nil.mp (none ▸ same))) ?_
      exact fun none => List.nil_perm.mp (none ▸ reordered)
    have offers := offers_sortedBy isFormatControl results
    have offers' := offers_sortedBy isFormatControl others
    have agree := (offers.complete.trans same).trans offers'.complete.symm
    exact .inl ⟨_, _, offered, collectAccounts_ok isFormatControl fails', offers, offers', agree,
      preferredAccount_perm agree, offers.unique isFormatControl agree offers'.sorted⟩

def sampleAnswers : List (Except String Properties) :=
  [.ok ⟨"bob", "", false, false, some 7⟩, .error "gone", .ok ⟨"root", "", true, false, none⟩,
    .ok ⟨"ann", "Ann  Lee", false, false, some 9⟩]

/-- Two users that are listed in either order. -/
theorem discovery_any_order_sample :
    collectAccounts (fun _ => false) sampleAnswers = collectAccounts (fun _ => false) sampleAnswers.reverse := by
  have orders := discovery_any_order (fun _ => false) sampleAnswers sampleAnswers.reverse (List.reverse_perm _).symm
  obtain ⟨accounts, accounts', collects, collects', _, _, _, _, unique⟩ | ⟨_, _, _, _, nothing, _⟩ := orders
  · rw [collects, collects', unique (by decide +kernel)]
  · exact absurd nothing (by decide +kernel)

end Discovery

end Genkan.Greeter
