import Mathlib.Data.Finset.Erase
import Mathlib.Data.Finset.Insert
import Mathlib.Data.UInt
import Mathlib.Logic.Function.Basic
import NoOS.Errno
import NoOS.Lib.Trace

/-!
# The sockets of `tcp_socket.c`

A descriptor is allocated, gets a socket of the network and, if it is to be secure, a descriptor for TLS. What the
network, the allocations and the functions of mbedtls return is up to them.
-/

namespace NoOS
open Function

/-- What a secure descriptor may hold. -/
inductive SecurePart
  | trng
  | conf
  | cacert
  | clicert
  | pkey
  | ssl
deriving DecidableEq

structure TcpSocketDesc where
  id : UInt32
  /-- The address of the secure descriptor, if it is not NULL -/
  secure : Option ℕ := none
deriving DecidableEq

structure TcpWorld where
  /-- The address of the next allocation -/
  next : ℕ := 0
  descs : ℕ → Option TcpSocketDesc := fun _ => none
  secures : ℕ → Bool := fun _ => false
  parts : ℕ → SecurePart → Bool := fun _ _ => false
  /-- The sockets that the network has opened or accepted, the last one first -/
  opened : List UInt32 := []
  /-- The sockets that `socket_close` was called for, the last one first -/
  closed : List UInt32 := []
  /-- Memory has been touched or freed after it was freed. -/
  misused : Bool := false

namespace TcpWorld

def touchSecure (w : TcpWorld) (b : ℕ) : TcpWorld := { w with misused := w.misused || !w.secures b }

/-- `free(ldesc)` -/
def freeDesc (w : TcpWorld) (a : ℕ) : TcpWorld := { w with descs := update w.descs a none }

def socketClose (w : TcpWorld) (id : UInt32) : TcpWorld := { w with closed := id :: w.closed }

/-- Everything but `ssl` is given back. -/
def stcpSocketRemove (w : TcpWorld) (b : ℕ) : TcpWorld :=
  { w.touchSecure b with
    secures := update w.secures b false
    parts := update w.parts b fun p => p = .ssl && w.parts b p }

end TcpWorld

/-- Which of the pointers are not NULL. -/
structure SecureInitParam where
  caCert : Bool
  cliCert : Bool
  cliPk : Bool

structure SecureResults where
  calloc : Bool
  trngInit : ℤ
  configDefaults : ℤ
  caParse : ℤ
  cliParse : ℤ
  keyParse : ℤ
  ownCert : ℤ
  sslSetup : ℤ

/-- The calls before `mbedtls_ssl_setup` that may fail, with the part that each of them fills. -/
def secureSteps (param : SecureInitParam) (res : SecureResults) : List (Option SecurePart × ℤ) :=
  [(some .trng, res.trngInit), (some .conf, res.configDefaults)] ++
  (if param.caCert then [(some .cacert, res.caParse)] else []) ++
  (if param.cliCert then
    if param.cliPk then [(some .clicert, res.cliParse), (some .pkey, res.keyParse), (some .conf, res.ownCert)]
    else [(none, -EINVAL)]
  else [])

/-- The steps up to the first error. Of the calls that fail, only `trng_init` is sure to have nothing. -/
def runSecureSteps : List (Option SecurePart × ℤ) → (SecurePart → Bool) → ℤ × (SecurePart → Bool)
  | [], parts => (SUCCESS, parts)
  | (part, ret) :: steps, parts =>
    let filled := fun p => parts p || decide (part = some p)
    if ret < 0 then (ret, if part = some .trng then parts else filled) else runSecureSteps steps filled

namespace TcpWorld

/-- The code, and the address of the descriptor if there is one. -/
def stcpSocketInit (w : TcpWorld) (param : SecureInitParam) (res : SecureResults) : ℤ × Option ℕ × TcpWorld :=
  if !res.calloc then (FAILURE, none, w)
  else
    let b := w.next
    let (ret, parts) := runSecureSteps (secureSteps param res) fun _ => false
    -- `mbedtls_ssl_setup` keeps nothing when it fails
    let (ret, parts) := if ret < 0 then (ret, parts) else if res.sslSetup < 0 then (res.sslSetup, parts)
      else (SUCCESS, update parts .ssl true)
    let w := { w with next := b + 1, secures := update w.secures b true, parts := update w.parts b parts }
    if ret < 0 then (ret, none, w.stcpSocketRemove b) else (SUCCESS, some b, w)

end TcpWorld

structure TcpSocketInitParam where
  secureInitParam : Option SecureInitParam

structure InitResults where
  calloc : Bool
  socketOpen : ℤ
  sockId : UInt32
  secure : SecureResults

structure AcceptResults where
  socketAccept : ℤ
  newCliId : UInt32
  calloc : Bool

namespace TcpWorld

/-- `socket_init`, with the address of the new descriptor. -/
def socketInit (w : TcpWorld) (param : Option TcpSocketInitParam) (res : InitResults) : ℤ × Option ℕ × TcpWorld :=
  match param with
  | none => (FAILURE, none, w)
  | some param =>
    if !res.calloc then (FAILURE, none, w)
    else
      let a := w.next
      let w := { w with next := a + 1, descs := update w.descs a (some ⟨0, none⟩) }
      if res.socketOpen < 0 then (res.socketOpen, none, w.freeDesc a)
      else
        let w := { w with opened := res.sockId :: w.opened, descs := update w.descs a (some ⟨res.sockId, none⟩) }
        match param.secureInitParam with
        | none => (SUCCESS, some a, w)
        | some secureParam =>
          let (ret, secure, w) := w.stcpSocketInit secureParam res.secure
          let w := { w with descs := update w.descs a (some ⟨res.sockId, secure⟩) }
          if ret < 0 then (ret, none, (w.socketClose res.sockId).freeDesc a) else (SUCCESS, some a, w)

/-- A function that reads a descriptor, which is freed memory if there is none at the address. -/
def withDesc (w : TcpWorld) (a : ℕ) (f : TcpSocketDesc → ℤ × TcpWorld) : ℤ × TcpWorld :=
  match w.descs a with
  | none => (FAILURE, { w with misused := true })
  | some d => f d

def removeSecure (w : TcpWorld) (d : TcpSocketDesc) : TcpWorld :=
  match d.secure with
  | none => w
  | some b => w.stcpSocketRemove b

def socketRemove (w : TcpWorld) (desc : Option ℕ) (close : ℤ) : ℤ × TcpWorld :=
  match desc with
  | none => (FAILURE, w)
  | some a => w.withDesc a fun d =>
    let w := (w.removeSecure d).socketClose d.id
    if close < 0 then (close, w) else (SUCCESS, w.freeDesc a)

/-- `socket_accept`, with the address of the new descriptor. -/
def socketAccept (w : TcpWorld) (a : ℕ) (res : AcceptResults) : ℤ × Option ℕ × TcpWorld :=
  match w.descs a with
  | none => (FAILURE, none, { w with misused := true })
  | some d =>
    if d.secure ≠ none then (-ENOSYS, none, w)
    else if res.socketAccept < 0 then (res.socketAccept, none, w)
    else
      let w := { w with opened := res.newCliId :: w.opened }
      if !res.calloc then (-ENOMEM, none, w.socketClose d.id)
      else (SUCCESS, some w.next,
        { w with next := w.next + 1, descs := update w.descs w.next (some ⟨res.newCliId, none⟩) })

end TcpWorld

/-- The functions that only use a descriptor. -/
inductive SocketOp
  | connect
  | disconnect
  | send
  | recv
  | bind
  | listen
deriving DecidableEq

/-- `socket_bind` and `socket_listen` neither test the descriptor nor work with a secure one. -/
def SocketOp.isServerOp (op : SocketOp) : Bool := op = .bind || op = .listen

/-- A use of a descriptor, where the network or mbedtls returns `ret`. -/
def TcpWorld.socketUse (w : TcpWorld) (op : SocketOp) (desc : Option ℕ) (ret : ℤ) : ℤ × TcpWorld :=
  match desc with
  | none => (FAILURE, { w with misused := w.misused || op.isServerOp })
  | some a => w.withDesc a fun d =>
    match d.secure with
    | none => (ret, w)
    | some b => if op.isServerOp then (-ENOSYS, w) else (ret, w.touchSecure b)

inductive TcpCall
  | init (param : Option TcpSocketInitParam) (res : InitResults)
  | remove (desc : Option ℕ) (close : ℤ)
  | accept (a : ℕ) (res : AcceptResults)
  | use (op : SocketOp) (desc : Option ℕ) (ret : ℤ)

/-- The world, and the descriptors that the callers have. -/
structure TcpSystem where
  world : TcpWorld := {}
  handles : Finset ℕ := ∅

namespace TcpSystem

/-- A descriptor that is handed out. -/
def addHandle (handles : Finset ℕ) : ℤ × Option ℕ × TcpWorld → ℤ × TcpSystem
  | (ret, none, w) => (ret, ⟨w, handles⟩)
  | (ret, some a, w) => (ret, ⟨w, insert a handles⟩)

/-- Callers keep a descriptor unless it was removed. -/
def dropHandle (handles : Finset ℕ) (desc : Option ℕ) : ℤ × TcpWorld → ℤ × TcpSystem
  | (ret, w) => (ret, ⟨w, if ret < 0 then handles else desc.elim handles handles.erase⟩)

def keepHandles (handles : Finset ℕ) : ℤ × TcpWorld → ℤ × TcpSystem
  | (ret, w) => (ret, ⟨w, handles⟩)

def call (s : TcpSystem) : TcpCall → ℤ × TcpSystem
  | .init param res => addHandle s.handles (s.world.socketInit param res)
  | .remove desc close => dropHandle s.handles desc (s.world.socketRemove desc close)
  | .accept a res => addHandle s.handles (s.world.socketAccept a res)
  | .use op desc ret => keepHandles s.handles (s.world.socketUse op desc ret)

def step (s : TcpSystem) (c : TcpCall) : TcpSystem := (s.call c).2

/-- Callers use descriptors that they have. A NULL is allowed where it is tested. -/
def Allows (s : TcpSystem) : TcpCall → Prop
  | .init _ _ => True
  | .remove desc _ => ∀ a ∈ desc, a ∈ s.handles
  | .accept a _ => a ∈ s.handles
  | .use op none _ => op.isServerOp = false
  | .use _ (some a) _ => a ∈ s.handles

instance (s : TcpSystem) : (c : TcpCall) → Decidable (s.Allows c)
  | .init _ _ => .isTrue trivial
  | .remove desc _ => inferInstanceAs (Decidable (∀ a ∈ desc, a ∈ s.handles))
  | .accept a _ | .use _ (some a) _ => inferInstanceAs (Decidable (a ∈ s.handles))
  | .use op none _ => inferInstanceAs (Decidable (op.isServerOp = false))

end TcpSystem

/-- A call has given everything back: the sockets `ids` that were opened are closed, each of them once and no other
one, and not the one that listens. -/
structure Unwound (w w' : TcpWorld) (listening : Option UInt32) : Prop where
  descs : w'.descs = w.descs
  secures : w'.secures = w.secures
  parts : w'.parts = w.parts
  sockets : ∃ ids, w'.opened = ids ++ w.opened ∧ w'.closed = ids ++ w.closed ∧ ∀ id ∈ ids, listening ≠ some id

/-- The descriptor is as it was, and so is its secure part. -/
def Kept (w w' : TcpWorld) (a : ℕ) : Prop :=
  w'.descs a = w.descs a ∧ ∀ d, w.descs a = some d → ∀ b, d.secure = some b → w'.secures b = w.secures b

namespace TcpSystem

/-- What is asked of a call that fails. -/
def FailsWell (s t : TcpSystem) : TcpCall → Prop
  | .init _ _ => Unwound s.world t.world none
  | .accept a _ => Unwound s.world t.world ((s.world.descs a).map TcpSocketDesc.id)
  | .remove (some a) _ => Kept s.world t.world a
  | .remove none _ | .use _ _ _ => True

/-- A call that fails has given back what it is asked to, and no call touches freed memory. -/
structure Right (s : TcpSystem) (c : TcpCall) : Prop where
  fails : (s.call c).1 < 0 → s.FailsWell (s.step c) c
  intact : (s.step c).world.misused = false

/-- There is memory for an accepted socket, and a secure socket can be closed. -/
def Meets (s : TcpSystem) : TcpCall → Prop
  | .init _ _ => True
  | .remove desc close => ∀ a ∈ desc, ∀ d ∈ s.world.descs a, d.secure ≠ none → 0 ≤ close
  | .accept a res => ∀ d ∈ s.world.descs a, d.secure = none → 0 ≤ res.socketAccept → res.calloc = true
  | .use _ _ _ => True

instance (s : TcpSystem) : (c : TcpCall) → Decidable (s.Meets c)
  | .init _ _ | .use _ _ _ => .isTrue trivial
  | .remove desc close => inferInstanceAs (Decidable (∀ a ∈ desc, ∀ d ∈ s.world.descs a, d.secure ≠ none → 0 ≤ close))
  | .accept a res => inferInstanceAs
    (Decidable (∀ d ∈ s.world.descs a, d.secure = none → 0 ≤ res.socketAccept → res.calloc = true))

/-- Every descriptor that a caller has is there, with a secure part of its own. -/
structure Valid (s : TcpSystem) : Prop where
  desc : ∀ a ∈ s.handles, ∃ d, s.world.descs a = some d ∧ ∀ b, d.secure = some b → s.world.secures b = true
  apart : ∀ a ∈ s.handles, ∀ a' ∈ s.handles, a' ≠ a → ∀ d d' b, s.world.descs a = some d →
    s.world.descs a' = some d' → d.secure = some b → d'.secure ≠ some b
  fresh : ∀ a, s.world.next ≤ a → s.world.descs a = none ∧ s.world.secures a = false ∧ ∀ p, s.world.parts a p = false
  intact : s.world.misused = false

end TcpSystem

namespace TcpWorld

variable {w w' : TcpWorld} {a b n : ℕ}

/-- Addresses that are not in use yet. -/
def FreshFrom (w : TcpWorld) (n : ℕ) : Prop :=
  ∀ a, n ≤ a → w.descs a = none ∧ w.secures a = false ∧ ∀ p, w.parts a p = false

lemma runSecureSteps_ssl {steps : List (Option SecurePart × ℤ)} (h : ∀ q ∈ steps, q.1 ≠ some .ssl)
    {parts : SecurePart → Bool} (hparts : parts .ssl = false) : (runSecureSteps steps parts).2 .ssl = false := by
  induction steps generalizing parts with
  | nil => exact hparts
  | cons q steps ih =>
    obtain ⟨part, ret⟩ := q
    have hfilled : (parts .ssl || decide (part = some .ssl)) = false := by
      rw [hparts, Bool.false_or]
      exact decide_eq_false (h _ List.mem_cons_self)
    rw [runSecureSteps]
    split_ifs
    · exact hparts
    · exact hfilled
    · exact ih (fun q hq => h q (List.mem_cons_of_mem _ hq)) hfilled

lemma secureSteps_ne_ssl (param : SecureInitParam) (res : SecureResults) :
    ∀ q ∈ secureSteps param res, q.1 ≠ some .ssl := by
  unfold secureSteps
  intro q hq
  split_ifs at hq <;> simp at hq <;> grind

/-- Without `ssl`, nothing is left of a secure descriptor that was new. -/
lemma stcpSocketRemove_new {parts : SecurePart → Bool} (hparts : parts .ssl = false) (hsecure : w.secures b = false)
    (hfresh : ∀ p, w.parts b p = false) :
    ({ w with next := n, secures := update w.secures b true, parts := update w.parts b parts } : TcpWorld).stcpSocketRemove b =
      { w with next := n } := by
  have hempty : (fun p => decide (p = SecurePart.ssl) && parts p) = w.parts b := by
    funext p
    rw [hfresh]
    by_cases hp : p = .ssl
    · rw [hp, hparts, Bool.and_false]
    · rw [decide_eq_false hp, Bool.false_and]
  unfold stcpSocketRemove touchSecure
  simp only [update_self, Bool.not_true, Bool.or_false, update_idem, hempty, update_eq_self]
  congr
  rw [← hsecure, update_eq_self]

lemma stcpSocketInit_cases (hfresh : w.FreshFrom w.next) (param : SecureInitParam) (res : SecureResults) :
    (∃ ret n, ret < 0 ∧ w.next ≤ n ∧ w.stcpSocketInit param res = (ret, none, { w with next := n })) ∨
      ∃ parts, w.stcpSocketInit param res = (SUCCESS, some w.next,
        { w with next := w.next + 1, secures := update w.secures w.next true, parts := update w.parts w.next parts }) := by
  have hssl := @runSecureSteps_ssl _ (secureSteps_ne_ssl param res) (fun _ => false) rfl
  obtain ⟨-, hsecure, hparts⟩ := hfresh w.next le_rfl
  unfold stcpSocketInit
  by_cases hcalloc : (!res.calloc) = true
  · rw [if_pos hcalloc]
    exact Or.inl ⟨FAILURE, w.next, by decide, le_rfl, rfl⟩
  · rw [if_neg hcalloc]
    rcases hrun : runSecureSteps (secureSteps param res) (fun _ => false) with ⟨ret, parts⟩
    rw [hrun] at hssl
    dsimp only
    by_cases hret : ret < 0
    · rw [if_pos hret, if_pos hret, stcpSocketRemove_new hssl hsecure hparts]
      exact Or.inl ⟨ret, w.next + 1, hret, Nat.le_succ _, rfl⟩
    · rw [if_neg hret]
      by_cases hsetup : res.sslSetup < 0
      · rw [if_pos hsetup, if_pos hsetup, stcpSocketRemove_new hssl hsecure hparts]
        exact Or.inl ⟨res.sslSetup, w.next + 1, hsetup, Nat.le_succ _, rfl⟩
      · rw [if_neg hsetup, if_neg (show ¬SUCCESS < 0 by decide)]
        exact Or.inr ⟨_, rfl⟩

/-- A new descriptor, of which the secure part is new too. -/
structure Added (w w' : TcpWorld) : Prop where
  desc : ∃ d, w'.descs w.next = some d ∧ ∀ b, d.secure = some b → w.next ≤ b ∧ w'.secures b = true
  descs : ∀ a, a ≠ w.next → w'.descs a = w.descs a
  secures : ∀ b < w.next, w'.secures b = w.secures b
  next : w.next < w'.next
  fresh : w'.FreshFrom w'.next
  intact : w'.misused = w.misused

lemma socketInit_cases (hfresh : w.FreshFrom w.next) (param : Option TcpSocketInitParam) (res : InitResults) :
    (∃ ret n ids, ret < 0 ∧ w.next ≤ n ∧ w.socketInit param res =
      (ret, none, { w with next := n, opened := ids ++ w.opened, closed := ids ++ w.closed })) ∨
      ∃ w', w.socketInit param res = (SUCCESS, some w.next, w') ∧ Added w w' := by
  have hfail : FAILURE < 0 := by decide
  have hback : ∀ d, update (update w.descs w.next d) w.next none = w.descs := by
    intro d
    rw [update_idem, ← (hfresh w.next le_rfl).1, update_eq_self]
  unfold socketInit
  cases param with
  | none => exact Or.inl ⟨FAILURE, w.next, [], hfail, le_rfl, rfl⟩
  | some param =>
    dsimp only
    split_ifs with hcalloc hopen
    · exact Or.inl ⟨FAILURE, w.next, [], hfail, le_rfl, rfl⟩
    · refine Or.inl ⟨res.socketOpen, w.next + 1, [], hopen, Nat.le_succ _, ?_⟩
      rw [freeDesc]
      simp only [hback, List.nil_append]
    · cases hparam : param.secureInitParam with
      | none =>
        refine Or.inr ⟨_, rfl, ⟨⟨_, update_self .., nofun⟩, ?_, fun _ _ => rfl, Nat.lt_succ_self _, ?_, rfl⟩⟩
        · intro a ha
          dsimp only
          rw [update_of_ne ha, update_of_ne ha]
        · intro a ha
          have hne : a ≠ w.next := by
            change w.next + 1 ≤ a at ha
            lia
          dsimp only
          rw [update_of_ne hne, update_of_ne hne]
          exact hfresh a (Nat.le_of_succ_le ha)
      | some secureParam =>
        dsimp only
        have hnew : ({ w with
            next := w.next + 1
            descs := update (update w.descs w.next (some ⟨0, none⟩)) w.next (some ⟨res.sockId, none⟩)
            opened := res.sockId :: w.opened } : TcpWorld).FreshFrom (w.next + 1) := by
          intro a ha
          have hne : a ≠ w.next := by omega
          dsimp only
          rw [update_of_ne hne, update_of_ne hne]
          exact hfresh a (Nat.le_of_succ_le ha)
        rcases stcpSocketInit_cases hnew secureParam res.secure with ⟨ret, n, hret, hn, heq⟩ | ⟨parts, heq⟩
        · rw [heq]
          refine Or.inl ⟨ret, n, [res.sockId], hret, (Nat.le_succ _).trans hn, ?_⟩
          dsimp only
          rw [if_pos hret, freeDesc, socketClose]
          simp only [update_idem, List.singleton_append]
          congr 3
          rw [← (hfresh w.next le_rfl).1, update_eq_self]
        · rw [heq]
          dsimp only
          rw [if_neg (by decide)]
          refine Or.inr ⟨_, rfl, ⟨⟨_, update_self .., ?_⟩, ?_, ?_, ?_, ?_, rfl⟩⟩
          · rintro b hb
            obtain rfl := Option.some.inj hb
            exact ⟨Nat.le_succ _, update_self ..⟩
          · intro a ha
            dsimp only
            rw [update_of_ne ha, update_of_ne ha, update_of_ne ha]
          · intro b hb
            exact update_of_ne (by lia) ..
          · exact (Nat.lt_succ_self _).trans (Nat.lt_succ_self _)
          · intro a ha
            change w.next + 1 + 1 ≤ a at ha
            have hne : a ≠ w.next := by omega
            have hne' : a ≠ w.next + 1 := by lia
            dsimp only
            rw [update_of_ne hne, update_of_ne hne, update_of_ne hne, update_of_ne hne', update_of_ne hne']
            exact hfresh a (by lia)

/-- The secure descriptor of a descriptor goes, and nothing else. -/
lemma removeSecure_eq {d : TcpSocketDesc} (hlive : ∀ b, d.secure = some b → w.secures b = true) :
    ∃ secures parts, w.removeSecure d = { w with secures := secures, parts := parts } ∧
      (∀ b, d.secure ≠ some b → secures b = w.secures b ∧ parts b = w.parts b) ∧
      ∀ b, d.secure = some b → secures b = false := by
  unfold removeSecure
  cases hsecure : d.secure with
  | none => exact ⟨w.secures, w.parts, rfl, fun _ _ => ⟨rfl, rfl⟩, nofun⟩
  | some b =>
    refine ⟨update w.secures b false, update w.parts b fun p => p = .ssl && w.parts b p, ?_, ?_, ?_⟩
    · simp only [stcpSocketRemove, touchSecure, hlive b hsecure, Bool.not_true, Bool.or_false]
    · intro b' hne
      have hb : b' ≠ b := fun heq => hne (congrArg some heq.symm)
      rw [update_of_ne hb, update_of_ne hb]
      exact ⟨rfl, rfl⟩
    · rintro b' hb
      obtain rfl := Option.some.inj hb
      exact update_self ..

end TcpWorld

namespace TcpSystem

variable {s : TcpSystem} {w' : TcpWorld} {a : ℕ} {d : TcpSocketDesc} {c : TcpCall}

lemma Valid.lt (h : s.Valid) (ha : a ∈ s.handles) : a < s.world.next := by
  obtain ⟨d, hd, -⟩ := h.desc a ha
  by_contra hle
  rw [(h.fresh a (Nat.le_of_not_lt hle)).1] at hd
  exact absurd hd nofun

lemma Valid.secure_lt (h : s.Valid) {b : ℕ} (hb : s.world.secures b = true) : b < s.world.next := by
  by_contra hle
  rw [(h.fresh b (Nat.le_of_not_lt hle)).2.1] at hb
  exact absurd hb nofun

lemma Valid.secure (h : s.Valid) (ha : a ∈ s.handles) (hd : s.world.descs a = some d) {b : ℕ}
    (hb : d.secure = some b) : s.world.secures b = true := by
  obtain ⟨d', hd', hlive⟩ := h.desc a ha
  obtain rfl := Option.some.inj (hd.symm.trans hd')
  exact hlive b hb

lemma Valid.insert (h : s.Valid) (hadd : s.world.Added w') : Valid ⟨w', insert s.world.next s.handles⟩ := by
  have hold : ∀ a ∈ s.handles, w'.descs a = s.world.descs a := fun a ha => hadd.descs a (h.lt ha).ne
  obtain ⟨new, hnew, hnewsecure⟩ := hadd.desc
  have hapart : ∀ a ∈ s.handles, ∀ d b, w'.descs a = some d → d.secure = some b → new.secure ≠ some b := by
    intro a ha d b hd hb hb'
    rw [hold a ha] at hd
    have hlt := h.secure_lt (h.secure ha hd hb)
    have hge := (hnewsecure b hb').1
    omega
  refine ⟨?_, ?_, hadd.fresh, hadd.intact.trans h.intact⟩
  · intro a ha
    rcases Finset.mem_insert.mp ha with rfl | ha
    · exact ⟨new, hnew, fun b hb => (hnewsecure b hb).2⟩
    · obtain ⟨d, hd, hlive⟩ := h.desc a ha
      refine ⟨d, (hold a ha).trans hd, fun b hb => ?_⟩
      exact (hadd.secures b (h.secure_lt (hlive b hb))).trans (hlive b hb)
  · intro a ha a' ha' hne d d' b hd hd' hb hb'
    rcases Finset.mem_insert.mp ha with rfl | ha <;> rcases Finset.mem_insert.mp ha' with rfl | ha'
    · exact hne rfl
    · obtain rfl := Option.some.inj (hnew.symm.trans hd)
      exact hapart a' ha' d' b hd' hb' hb
    · obtain rfl := Option.some.inj (hnew.symm.trans hd')
      exact hapart a ha d b hd hb hb'
    · exact h.apart a ha a' ha' hne d d' b ((hold a ha).symm.trans hd) ((hold a' ha').symm.trans hd') hb hb'

lemma Valid.erase (h : s.Valid) (ha : a ∈ s.handles) (hd : s.world.descs a = some d) (id : UInt32) :
    Valid ⟨((s.world.removeSecure d).socketClose id).freeDesc a, s.handles.erase a⟩ := by
  obtain ⟨secures, parts, heq, hkeep, -⟩ := TcpWorld.removeSecure_eq fun b hb => h.secure ha hd hb
  rw [heq]
  have hdescs : ∀ k, k ≠ a → update s.world.descs a none k = s.world.descs k := fun k hk => update_of_ne hk ..
  refine ⟨?_, ?_, ?_, h.intact⟩
  · intro k hk
    obtain ⟨hne, hk⟩ := Finset.mem_erase.mp hk
    obtain ⟨e, he, hlive⟩ := h.desc k hk
    refine ⟨e, (hdescs k hne).trans he, fun b hb => ?_⟩
    have hother : d.secure ≠ some b := h.apart k hk a ha hne.symm e d b he hd hb
    exact (hkeep b hother).1.trans (hlive b hb)
  · intro k hk k' hk' hkk e e' b he he'
    obtain ⟨hne, hk⟩ := Finset.mem_erase.mp hk
    obtain ⟨hne', hk'⟩ := Finset.mem_erase.mp hk'
    exact h.apart k hk k' hk' hkk e e' b ((hdescs k hne).symm.trans he) ((hdescs k' hne').symm.trans he')
  · intro k hk
    have hne : k ≠ a := fun heq => absurd (h.lt ha) (heq ▸ hk).not_gt
    obtain ⟨hnone, hdead, hempty⟩ := h.fresh k hk
    have hother : d.secure ≠ some k := fun hk' => by
      rw [h.secure ha hd hk'] at hdead
      exact absurd hdead nofun
    obtain ⟨hsecures, hparts⟩ := hkeep k hother
    refine ⟨(hdescs k hne).trans hnone, hsecures.trans hdead, fun p => ?_⟩
    exact (congrFun hparts p).trans (hempty p)

lemma Valid.unwound (h : s.Valid) {n : ℕ} (hn : s.world.next ≤ n) (opened closed : List UInt32) :
    Valid ⟨{ s.world with next := n, opened := opened, closed := closed }, s.handles⟩ :=
  ⟨h.desc, h.apart, fun a ha => h.fresh a (hn.trans ha), h.intact⟩

lemma step_eq {ret : ℤ} {t : TcpSystem} (h : s.call c = (ret, t)) : s.step c = t := by
  rw [step, h]

lemma right_iff_of {ret : ℤ} {t : TcpSystem} (hcall : s.call c = (ret, t)) (hintact : t.world.misused = false) :
    s.Right c ↔ (ret < 0 → s.FailsWell t c) := by
  have hstep := step_eq hcall
  constructor
  · intro h
    have hfails := h.fails
    rwa [hcall, hstep] at hfails
  · intro h
    constructor
    · rwa [hcall, hstep]
    · rwa [hstep]

lemma init_right (h : s.Valid) (param : Option TcpSocketInitParam) (res : InitResults) :
    s.Right (.init param res) ∧ (s.step (.init param res)).Valid := by
  have hcall : s.call (.init param res) = addHandle s.handles (s.world.socketInit param res) := rfl
  rcases TcpWorld.socketInit_cases h.fresh param res with ⟨ret, n, ids, hret, hn, heq⟩ | ⟨w', heq, hadd⟩ <;>
    rw [heq, addHandle] at hcall <;> rw [step_eq hcall]
  · have hunwound : Unwound s.world { s.world with
        next := n, opened := ids ++ s.world.opened, closed := ids ++ s.world.closed } none :=
      ⟨rfl, rfl, rfl, ids, rfl, rfl, fun _ _ => nofun⟩
    exact ⟨(right_iff_of hcall h.intact).mpr fun _ => hunwound, h.unwound hn _ _⟩
  · have hsuccess : ¬SUCCESS < 0 := by decide
    have hright := (right_iff_of hcall (hadd.intact.trans h.intact)).mpr fun hneg => absurd hneg hsuccess
    exact ⟨hright, h.insert hadd⟩

/-- Without memory for the new descriptor, the listening socket is closed. -/
lemma accept_iff (h : s.Valid) (ha : a ∈ s.handles) (res : AcceptResults) :
    (s.Right (.accept a res) ↔ s.Meets (.accept a res)) ∧
      (s.Meets (.accept a res) → (s.step (.accept a res)).Valid) := by
  obtain ⟨d, hd, -⟩ := h.desc a ha
  have hmeets : s.Meets (.accept a res) ↔ (d.secure = none → 0 ≤ res.socketAccept → res.calloc = true) := by
    constructor
    · exact fun hall => hall d hd
    · rintro hone d' hd'
      obtain rfl := Option.some.inj (hd.symm.trans hd')
      exact hone
  rw [hmeets]
  have hsame : ∀ ret : ℤ, s.call (.accept a res) = (ret, s) → s.Right (.accept a res) ∧ (s.step (.accept a res)).Valid := by
    intro ret hret
    rw [right_iff_of hret h.intact, step_eq hret]
    exact ⟨fun _ => ⟨rfl, rfl, rfl, [], rfl, rfl, nofun⟩, h⟩
  have hcall : s.call (.accept a res) = addHandle s.handles (s.world.socketAccept a res) := rfl
  rw [TcpWorld.socketAccept, hd] at hcall
  dsimp only at hcall
  by_cases hsecure : d.secure = none
  · rw [if_neg (not_not.mpr hsecure)] at hcall
    by_cases hret : res.socketAccept < 0
    · rw [if_pos hret] at hcall
      obtain ⟨hright, hvalid⟩ := hsame _ hcall
      exact ⟨iff_of_true hright fun _ hle => absurd hret hle.not_gt, fun _ => hvalid⟩
    · rw [if_neg hret] at hcall
      cases hcalloc : res.calloc with
      | false =>
        rw [hcalloc, Bool.not_false, if_pos rfl, addHandle] at hcall
        have hnomem : -ENOMEM < 0 := by decide
        have hno : ¬(d.secure = none → 0 ≤ res.socketAccept → false = true) :=
          fun hall => absurd (hall hsecure (not_lt.mp hret)) nofun
        rw [right_iff_of hcall h.intact, FailsWell, hd]
        refine ⟨iff_of_false (fun hunwound => ?_) hno, fun hall => absurd hall hno⟩
        obtain ⟨-, -, -, ids, -, hclosed, hlisten⟩ := hunwound hnomem
        have hids : [d.id] ++ s.world.closed = ids ++ s.world.closed := hclosed
        exact hlisten d.id (List.append_cancel_right hids ▸ List.mem_singleton_self d.id) rfl
      | true =>
        rw [hcalloc, Bool.not_true, if_neg nofun, addHandle] at hcall
        have hsuccess : ¬SUCCESS < 0 := by decide
        have hadd : s.world.Added { s.world with
            next := s.world.next + 1
            opened := res.newCliId :: s.world.opened
            descs := update s.world.descs s.world.next (some ⟨res.newCliId, none⟩) } := by
          refine ⟨⟨_, update_self .., nofun⟩, fun k hk => update_of_ne hk .., fun _ _ => rfl, Nat.lt_succ_self _, ?_, rfl⟩
          intro k hk
          obtain ⟨hnone, hrest⟩ := h.fresh k (Nat.le_of_succ_le hk)
          exact ⟨(update_of_ne (Nat.lt_of_succ_le hk).ne' ..).trans hnone, hrest⟩
        rw [right_iff_of hcall h.intact, step_eq hcall]
        exact ⟨iff_of_true (fun hneg => absurd hneg hsuccess) fun _ _ => rfl, fun _ => h.insert hadd⟩
  · rw [if_pos hsecure] at hcall
    obtain ⟨hright, hvalid⟩ := hsame _ hcall
    exact ⟨iff_of_true hright fun hnone => absurd hnone hsecure, fun _ => hvalid⟩

lemma remove_iff (h : s.Valid) {desc : Option ℕ} (hdesc : ∀ a ∈ desc, a ∈ s.handles) (close : ℤ) :
    (s.Right (.remove desc close) ↔ s.Meets (.remove desc close)) ∧
      (s.Meets (.remove desc close) → (s.step (.remove desc close)).Valid) := by
  have hcall : s.call (.remove desc close) = dropHandle s.handles desc (s.world.socketRemove desc close) := rfl
  cases desc with
  | none =>
    have hfail : s.call (.remove none close) = (FAILURE, s) := rfl
    rw [right_iff_of hfail h.intact, step_eq hfail]
    exact ⟨iff_of_true (fun _ => trivial) nofun, fun _ => h⟩
  | some a =>
    have ha := hdesc a rfl
    obtain ⟨d, hd, -⟩ := h.desc a ha
    have hmeets : s.Meets (.remove (some a) close) ↔ (d.secure ≠ none → 0 ≤ close) := by
      constructor
      · exact fun hall => hall a rfl d hd
      · rintro hone a' haa d' hd'
        obtain rfl := Option.some.inj haa
        obtain rfl := Option.some.inj (hd.symm.trans hd')
        exact hone
    rw [hmeets]
    rw [TcpWorld.socketRemove, TcpWorld.withDesc, hd] at hcall
    dsimp only at hcall
    by_cases hclose : close < 0
    · rw [if_pos hclose, dropHandle, if_pos hclose] at hcall
      obtain ⟨secures, parts, heq, -, hgone⟩ := TcpWorld.removeSecure_eq fun b hb => h.secure ha hd hb
      rw [heq] at hcall
      rw [right_iff_of hcall h.intact, step_eq hcall]
      cases hsecure : d.secure with
      | none =>
        rw [TcpWorld.removeSecure, hsecure] at heq
        dsimp only at heq
        rw [← heq]
        have hkept : Kept s.world (s.world.socketClose d.id) a := by
          refine ⟨rfl, fun _ _ _ _ => rfl⟩
        exact ⟨iff_of_true (fun _ => hkept) fun hne => absurd rfl hne, fun _ => h.unwound le_rfl _ _⟩
      | some b =>
        have hno : ¬(some b ≠ none → 0 ≤ close) := fun hall => absurd hclose (hall nofun).not_gt
        refine ⟨iff_of_false (fun hright => ?_) hno, fun hall => absurd hall hno⟩
        obtain ⟨-, hkept⟩ := hright hclose
        have hlive : secures b = true := (hkept d hd b hsecure).trans (h.secure ha hd hsecure)
        exact absurd ((hgone b hsecure).symm.trans hlive) nofun
    · have hsuccess : ¬SUCCESS < 0 := by decide
      rw [if_neg hclose, dropHandle, if_neg hsuccess] at hcall
      have hvalid := h.erase ha hd d.id
      rw [right_iff_of hcall hvalid.intact, step_eq hcall]
      exact ⟨iff_of_true (fun hneg => absurd hneg hsuccess) fun _ => not_lt.mp hclose, fun _ => hvalid⟩

lemma use_right (h : s.Valid) {op : SocketOp} {desc : Option ℕ} {ret : ℤ} (hallow : s.Allows (.use op desc ret)) :
    s.Right (.use op desc ret) ∧ (s.step (.use op desc ret)).Valid := by
  have hcall : s.call (.use op desc ret) = keepHandles s.handles (s.world.socketUse op desc ret) := rfl
  obtain ⟨ret', hsame⟩ : ∃ ret', s.call (.use op desc ret) = (ret', s) := by
    rw [hcall]
    unfold TcpWorld.socketUse
    cases desc with
    | none =>
      have hop : op.isServerOp = false := hallow
      dsimp only
      rw [hop, Bool.or_false]
      exact ⟨_, rfl⟩
    | some a =>
      obtain ⟨d, hd, hlive⟩ := h.desc a hallow
      dsimp only
      rw [TcpWorld.withDesc, hd]
      dsimp only
      cases hsecure : d.secure with
      | none => exact ⟨_, rfl⟩
      | some b =>
        dsimp only
        split_ifs
        · exact ⟨_, rfl⟩
        · rw [TcpWorld.touchSecure, hlive b hsecure, Bool.not_true, Bool.or_false]
          exact ⟨_, rfl⟩
  rw [right_iff_of hsame h.intact, step_eq hsame]
  exact ⟨fun _ => trivial, h⟩

lemma right_iff (h : s.Valid) (hallow : s.Allows c) : (s.Right c ↔ s.Meets c) ∧ (s.Meets c → (s.step c).Valid) := by
  cases c with
  | init param res =>
    obtain ⟨hright, hvalid⟩ := init_right h param res
    exact ⟨iff_of_true hright trivial, fun _ => hvalid⟩
  | remove desc close => exact remove_iff h hallow close
  | accept a res => exact accept_iff h hallow res
  | use op desc ret =>
    obtain ⟨hright, hvalid⟩ := use_right h hallow
    exact ⟨iff_of_true hright trivial, fun _ => hvalid⟩

end TcpSystem

namespace TcpSystem

/-- All calls of a run are right if and only if all of them meet the condition. -/
theorem right_iff_meets {calls : List TcpCall} (hallow : Trace.Guarded step Allows {} calls) :
    Trace.Guarded step Right {} calls ↔ Trace.Guarded step Meets {} calls := by
  have hstart : Valid {} := ⟨nofun, nofun, fun _ _ => ⟨rfl, rfl, fun _ => rfl⟩, rfl⟩
  have hboth : Trace.Guarded step (fun s c => s.Allows c ∧ s.Right c) {} calls ↔
      Trace.Guarded step (fun s c => s.Allows c ∧ s.Meets c) {} calls := by
    apply Trace.guarded_iff_guarded hstart
    · rintro s c hvalid ⟨hc, hmeets⟩
      exact (right_iff hvalid hc).2 hmeets
    · intro s c hvalid
      exact and_congr_right fun hc => (right_iff hvalid hc).1
  rw [Trace.guarded_and, Trace.guarded_and] at hboth
  constructor
  · exact fun h => (hboth.mp ⟨hallow, h⟩).2
  · exact fun h => (hboth.mpr ⟨hallow, h⟩).2

/-- Secure initialisation without an error. -/
def allWell : SecureResults := ⟨true, 0, 0, 0, 0, 0, 0, 0⟩

/-- A socket that is opened, listens, accepts a client and is removed, together with the client. -/
def serverCalls : List TcpCall :=
  [.init (some ⟨none⟩) ⟨true, 0, 5, allWell⟩, .use .listen (some 0) 0, .accept 0 ⟨0, 6, true⟩, .remove (some 1) 0,
    .remove (some 0) 0]

theorem right_at : Trace.Guarded step Right {} serverCalls :=
  (right_iff_meets (by decide)).mpr (by decide)

/-- There is no memory for the descriptor of a client, and the listening socket 5 is closed instead of the socket 6
of the client. -/
theorem not_right : ¬Trace.Guarded step Right {}
    [.init (some ⟨none⟩) ⟨true, 0, 5, allWell⟩, .use .listen (some 0) 0, .accept 0 ⟨0, 6, false⟩] := by
  intro h
  have hright := h [.init (some ⟨none⟩) ⟨true, 0, 5, allWell⟩, .use .listen (some 0) 0] _ List.prefix_rfl
  obtain ⟨ids, hopened, hclosed, hlisten⟩ := (hright.fails (by decide)).sockets
  have hids : [5] ++ [] = ids ++ [] := hclosed
  exact hlisten 5 (List.append_cancel_right hids ▸ List.mem_singleton_self 5) rfl

end TcpSystem

end NoOS
