import TaskCage.Foundation.Reach
import Mathlib.Data.Nat.Notation
import Mathlib.Logic.Function.Basic

/-!
# Credentials and sessions of the Remote listener

The credential store has two locks, one for the policies of the principals and
one for the channels that announce revocations.  A connection reads a policy,
checks the password without any lock, and only then subscribes to the channel.
An administrative call is a sequence of locked sections.  Connections and
administrative calls take their steps in any order.
-/

namespace TaskCage
namespace Remote

/-- What is stored about a principal, as far as authentication reads it. -/
structure PrincipalPolicy where
  clientId : String
  secretVerifier : String
deriving DecidableEq

/-- A receiver of a `watch` channel: it has seen so many modifications. -/
structure Receiver where
  channel : String
  seen : ℕ
deriving DecidableEq

/-- What a session keeps after authentication. -/
structure AuthenticatedPrincipal where
  policy : PrincipalPolicy
  revocation : Receiver
deriving DecidableEq

/-- The verifier that stands in for an unknown principal. -/
def dummyArgon2id : String :=
  "$argon2id$v=19$m=19456,t=2,p=1$c29tZS1maXhlZC1zYWx0$" ++
    "u1FGeu2AahxZdZmkrOJioBgcvDvGiwSu9tSlA6aLJkI"

/-- The policies, and for each channel how often it was modified. -/
structure CredentialStore where
  principals : String → Option PrincipalPolicy
  revisions : String → Option ℕ

/-- A locked section of an administrative call. -/
inductive Section where
  /-- The first of `revoke`. -/
  | remove (clientId : String)
  /-- The second of `revoke`. -/
  | notify (clientId : String)
  /-- The first of `rotate`. -/
  | insert (policy : PrincipalPolicy)
  /-- The second of `rotate`. -/
  | announce (clientId : String)
deriving DecidableEq

namespace CredentialStore

/-- Every principal of the configuration has a channel. -/
def new (principals : String → Option PrincipalPolicy) : CredentialStore where
  principals := principals
  revisions clientId := (principals clientId).map fun _ => 0

/-- What a section does. -/
def apply (store : CredentialStore) : Section → CredentialStore
  | .remove clientId =>
      { store with
        principals := Function.update store.principals clientId none }
  | .notify clientId =>
      { store with
        revisions := Function.update store.revisions clientId
          ((store.revisions clientId).map (· + 1)) }
  | .insert policy =>
      { store with
        principals := Function.update store.principals policy.clientId
          (some policy) }
  | .announce clientId =>
      { store with
        revisions := Function.update store.revisions clientId
          (some ((store.revisions clientId).getD 0)) }

/-- Block new sessions and wake the present ones. -/
def revoke (clientId : String) : List Section :=
  [.remove clientId, .notify clientId]

/-- A new verifier for new connections. -/
def rotate (policy : PrincipalPolicy) : List Section :=
  [.insert policy, .announce policy.clientId]

/-- Revoke those who are no longer configured and rotate the others. -/
def replaceAll (existing : List String)
    (principals : List (String × PrincipalPolicy)) : List Section :=
  (existing.filter fun clientId =>
      principals.all fun entry => entry.1 ≠ clientId).flatMap revoke ++
    principals.flatMap fun entry => rotate entry.2

/-- The end of `authenticate`: the password check, and the subscription. -/
def subscribe (store : CredentialStore) (verify : String → String → Bool)
    (clientId secret : String) (policy : Option PrincipalPolicy) :
    Option AuthenticatedPrincipal :=
  let verifier := (policy.map (·.secretVerifier)).getD dummyArgon2id
  if verify verifier secret then
    match policy with
    | none => none
    | some policy =>
        (store.revisions clientId).map fun version =>
          ⟨policy, clientId, version⟩
  else
    none

/-- `revoked` is ready: the channel was modified after the subscription. -/
def Ready (store : CredentialStore) (receiver : Receiver) : Prop :=
  ∃ version, store.revisions receiver.channel = some version ∧
    receiver.seen < version

end CredentialStore

/-- Where a connection is. -/
inductive Connection where
  | connected
  /-- The policy was read, and the password is being checked. -/
  | checking (clientId secret : String) (policy : Option PrincipalPolicy)
  /-- At the first `select` of the session loop. -/
  | selecting (principal : AuthenticatedPrincipal)
  /-- A frame was taken and is being decoded. -/
  | framed (principal : AuthenticatedPrincipal)
  /-- The operation was spawned, and its response is awaited. -/
  | dispatching (principal : AuthenticatedPrincipal)
  | closed
deriving DecidableEq

namespace Connection

/-- The session that was authenticated. -/
def principal : Connection → Option AuthenticatedPrincipal
  | selecting principal => some principal
  | framed principal => some principal
  | dispatching principal => some principal
  | _ => none

/-- The principal whose policy the connection has read. -/
def client : Connection → Option String
  | checking clientId _ (some _) => some clientId
  | connection => connection.principal.map (·.revocation.channel)

end Connection

/-- What others can notice of a step. -/
inductive SessionLabel where
  | quiet
  /-- The first `select` takes the branch of the frame. -/
  | frame (connection : ℕ)
  /-- The operation of a request is spawned. -/
  | dispatch (connection : ℕ)
  /-- A section of an administrative call. -/
  | perform (part : Section)
deriving DecidableEq

/-- The store, all connections, and what is left of each administrative
call. -/
structure CredentialWorld where
  store : CredentialStore
  connections : ℕ → Connection
  calls : ℕ → List Section

namespace CredentialWorld

/-- A connection moves. -/
def move (world : CredentialWorld) (index : ℕ) (next : Connection) :
    CredentialWorld :=
  { world with connections := Function.update world.connections index next }

/-- An administrative call begins. -/
def begin (world : CredentialWorld) (call : ℕ) (sections : List Section) :
    CredentialWorld :=
  { world with calls := Function.update world.calls call sections }

/-- A daemon that was just started. -/
def fresh (principals : String → Option PrincipalPolicy) :
    CredentialWorld where
  store := .new principals
  connections _ := .connected
  calls _ := []

end CredentialWorld

section Steps

variable (verify : String → String → Bool)

/-- One step of a connection or of an administrative call.  A connection may
end at any time, because of a deadline or because the peer is gone. -/
inductive SessionStep (world : CredentialWorld) :
    SessionLabel → CredentialWorld → Prop where
  -- `authenticate`
  | read (index : ℕ) (clientId secret : String)
      (stands : world.connections index = .connected) :
      SessionStep world .quiet (world.move index
        (.checking clientId secret (world.store.principals clientId)))
  | subscribe (index : ℕ) (clientId secret : String)
      (policy : Option PrincipalPolicy) (principal : AuthenticatedPrincipal)
      (stands : world.connections index = .checking clientId secret policy)
      (found : world.store.subscribe verify clientId secret policy =
        some principal) :
      SessionStep world .quiet (world.move index (.selecting principal))
  | reject (index : ℕ) (clientId secret : String)
      (policy : Option PrincipalPolicy)
      (stands : world.connections index = .checking clientId secret policy)
      (refused : world.store.subscribe verify clientId secret policy = none) :
      SessionStep world .quiet (world.move index .closed)
  -- The session loop.  Any ready branch of a `select` may be taken.
  | frame (index : ℕ) (principal : AuthenticatedPrincipal)
      (stands : world.connections index = .selecting principal) :
      SessionStep world (.frame index) (world.move index (.framed principal))
  | revoked (index : ℕ) (principal : AuthenticatedPrincipal)
      (stands : world.connections index = .selecting principal ∨
        world.connections index = .dispatching principal)
      (ready : world.store.Ready principal.revocation) :
      SessionStep world .quiet (world.move index .closed)
  -- The request is not valid: it is answered and the loop goes on.
  | refuse (index : ℕ) (principal : AuthenticatedPrincipal)
      (stands : world.connections index = .framed principal) :
      SessionStep world .quiet (world.move index (.selecting principal))
  | dispatch (index : ℕ) (principal : AuthenticatedPrincipal)
      (stands : world.connections index = .framed principal) :
      SessionStep world (.dispatch index)
        (world.move index (.dispatching principal))
  | respond (index : ℕ) (principal : AuthenticatedPrincipal)
      (stands : world.connections index = .dispatching principal) :
      SessionStep world .quiet (world.move index (.selecting principal))
  | close (index : ℕ) : SessionStep world .quiet (world.move index .closed)
  -- Administrative calls.
  | revoke (call : ℕ) (clientId : String) (idle : world.calls call = []) :
      SessionStep world .quiet
        (world.begin call (CredentialStore.revoke clientId))
  | rotate (call : ℕ) (policy : PrincipalPolicy)
      (idle : world.calls call = []) :
      SessionStep world .quiet
        (world.begin call (CredentialStore.rotate policy))
  | replaceAll (call : ℕ) (existing : List String)
      (principals : List (String × PrincipalPolicy))
      (idle : world.calls call = [])
      (listed : ∀ clientId, clientId ∈ existing ↔
        world.store.principals clientId ≠ none) :
      SessionStep world .quiet
        (world.begin call (CredentialStore.replaceAll existing principals))
  | apply (call : ℕ) (part : Section) (rest : List Section)
      (next : world.calls call = part :: rest) :
      SessionStep world (.perform part)
        { world with
          store := world.store.apply part
          calls := Function.update world.calls call rest }

end Steps

end Remote
end TaskCage
