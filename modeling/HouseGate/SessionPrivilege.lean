import HouseGate.QueryChain
import HouseGate.TokenFreshness

namespace HouseGate.QueryChain

open DecimalText AsciiText Utf8Text EthValidator CheckedSteps List QueryContext SessionState

/-!
# Privileges and accounts of a session

A session keeps the flags and the identity that its queries earn.  What one
query is exempted from and the account it is checked under are traced back to
the tokens that were accepted on the same session.
-/

/-- What a signer may be exempted for. -/
inductive Privilege where
  | maintenance
  | platformOperator
  | driver
  deriving DecidableEq

variable (state : SessionState)

def SessionState.holds : Privilege → Bool
  | .maintenance => state.maintenance
  | .platformOperator => state.platformOperator
  | .driver => state.isDriver

def ValidationResult.grants (result : ValidationResult) : Privilege → Bool
  | .maintenance => result.maintenance
  | .platformOperator => result.platformOperator
  | .driver => result.isDriver

/-- Whether the settings of a query ask for a privilege. -/
def Privilege.askedBy (settings : Settings) : Privilege → Bool
  | .maintenance => isMaintenance settings
  | .platformOperator => isPlatformOperator settings
  | .driver => isDriver settings

/-- Whether a signer is entitled to a privilege. -/
def Privilege.entitles (validator : Validator) (address : Bytes) : Privilege → Bool
  | .maintenance => isIndexer validator address
  | .platformOperator => isOperator validator address
  | .driver => isIndexer validator address

/-- The privileges that exempt from a check. -/
def Site.privileges : Site → List Privilege
  | .billing => [.maintenance, .platformOperator, .driver]
  | .tableReferenceGuard => [.maintenance, .platformOperator]
  | .settingsCheck => [.maintenance, .platformOperator]
  | .rewriter => [.maintenance, .platformOperator]
  | .commitGate => [.maintenance, .platformOperator, .driver]

/-- The state of a session whose queries have not begun. -/
def SessionState.opened (isRouted isPeerTrusted isForwardedFromPeer isForwarding : Bool) :
    SessionState :=
  ⟨[], false, false, false, isRouted, isPeerTrusted, isForwardedFromPeer, isForwarding⟩

def Submission.meta (submission : Submission) : QueryMeta :=
  ⟨submission.query.body, settingsOf submission.query.settings⟩

variable (library : Library)
  (config : ServerConfig)

/-- The submission's own token and settings entitle it to a privilege. -/
def Earned (submission : Submission) (privilege : Privilege) : Prop :=
  ∃ validator token address, config.validator = some validator ∧
      submission.meta.settings authTokenSettingKey = some token ∧
      token ≠ [] ∧
      validateToken library validator submission.now (trimQuotes token)
        submission.query.body [] = .ok address ∧
      privilege.askedBy submission.meta.settings = true ∧
      privilege.entitles validator address = true

/-- The signer of the token that the submission was accepted with. -/
def acceptedSigner (submission : Submission) : Option Bytes :=
  match config.validator with
  | none => none
  | some validator =>
    match validateQuery library validator submission.now submission.meta with
    | .error _ => none
    | .ok result =>
      if result.address = [] then none else some result.address

/-- The submission's settings name an owner whom its signer operates for. -/
def ActsFor (submission : Submission) (owner : Bytes) : Prop :=
  ∃ signer, acceptedSigner library config submission = some signer ∧
      payerOf submission.environment submission.meta.settings = some owner ∧
      submission.environment.isOperator owner signer = true

/-- The spellings in which the plugins take the account that a setting names. -/
def spellings (environment : Environment) (value : Bytes) : List Bytes :=
  let named := environment.toLowerText (trimQuotes (trimUnicodeSpace value))
  [trimQuotes value, named, environment.toLowerText (trimUnicodeSpace named)]

/-- A payer setting of the submission's own names the account. -/
def Submission.Names (submission : Submission) (account : Bytes) : Prop :=
  ∃ setting ∈ submission.query.settings,
    setting.key = payerSettingKey ∧ account ∈ spellings submission.environment setting.value

/-- The accounts that an event checks, gates or bills. -/
def Event.accounts : Event → List Bytes
  | .checkedBalance payer signer => [payer, signer]
  | .rewrote _ account => [account]
  | .gated event => [event.user, event.owner]
  | _ => []

/-- Whether the chain runs authentication on a session. -/
def SessionState.authenticates : Bool :=
  !(state.isRouted || (state.isPeerTrusted && !state.isForwardedFromPeer))

/-- The part of state and context that nothing behind authentication changes. -/
structure Standing where
  identity : Bytes
  holds : Privilege → Bool
  authenticates : Bool
  owner : Bytes
  settings : List Setting

def standing (context : QueryContext) : Standing where
  identity := state.identity
  holds := state.holds
  authenticates := state.authenticates
  owner := context.owner
  settings := context.query.settings

/-- Why an event is there, in terms of the standing it happens under. -/
def Explained (environment : Environment) (current : Standing) : Event → Prop
  | .exempted site => ∃ privilege ∈ site.privileges, current.holds privilege = true
  | .checkedBalance payer signer =>
    signer = current.identity ∧ signer ≠ [] ∧ payer = usagePayer signer current.settings
  | .rewrote _ account =>
    current.authenticates = true ∧ account =
        if current.owner = [] then current.identity else current.owner
  | .gated event =>
    current.authenticates = true ∧ (∀ privilege, current.holds privilege = false) ∧
      event.user = current.identity ∧
      event.owner = gateOwner environment current.owner current.identity current.settings
  | _ => True

variable {event : Event} {plugin : QueryPlugin}

section Plugins

variable {library} {state} {now : Int64} {environment : Environment} {context : QueryContext}

end Plugins

/-! ## Authentication -/

variable {validator : Validator} {result : ValidationResult} {privilege : Privilege}

/-- How the state behind authentication arises from the one before. -/
structure Authenticated
    (library : Library)
    (config : ServerConfig)
    (submission : Submission)
    (state : SessionState)
    (current : Standing) : Prop where
  authenticates : current.authenticates = state.authenticates
  holds : ∀ privilege, current.holds privilege = true →
      state.holds privilege = true ∨ Earned library config submission privilege
  identity : current.identity = state.identity ∨
      state.authenticates = true ∧ acceptedSigner library config submission = some current.identity
  ownSigner : state.authenticates = true →
      ∀ signer, acceptedSigner library config submission = some signer → current.identity = signer
  owner : current.owner = [] ∨ ActsFor library config submission current.owner
  settings : current.settings = submission.query.settings

/--
Where tokens are validated and operators looked up, a query that goes on without
an owner and without a privilege names none, or names its own signer.
-/
def Resolved (config : ServerConfig) (submission : Submission) (current : Standing) : Prop :=
  config.validator.isSome = true →
    config.access = true →
    current.authenticates = true →
    current.owner = [] →
    (∀ privilege, current.holds privilege = false) →
    (payerOf submission.environment submission.meta.settings).getD [] = [] ∨
      (payerOf submission.environment submission.meta.settings).getD [] =
        submission.environment.toLowerText current.identity

section Session

variable {library} {config} {state} {submission : Submission}

/-- The standing that the events of a reply and its end state share. -/
structure Accounted
    (library : Library)
    (config : ServerConfig)
    (submission : Submission)
    (state : SessionState)
    (reply : Reply) : Prop where
  authenticated : Authenticated library config submission state (standing reply.state reply.context)
  explained : ∀ event ∈ reply.events,
      Explained submission.environment (standing reply.state reply.context) event
  resolved : reply.events ≠ [] → Resolved config submission (standing reply.state reply.context)

end Session

/-! ## A session that keeps a privilege -/

end HouseGate.QueryChain
