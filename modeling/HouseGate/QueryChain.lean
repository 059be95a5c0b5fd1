import HouseGate.EthValidator

namespace HouseGate.QueryChain

open DecimalText AsciiText Utf8Text EthValidator

/-!
# The query stage of the server's plugin chain

The `OnQuery` hooks that read or write the privileges of a session, in the
order in which the server is built, with the filters of the chain.  A plugin
that leaves the privileges and the account of the session alone is an answer
of the environment: it may refuse the query or move the session to a peer.
-/

/-- The fields of `SessionState` that the query stage decides by. -/
structure SessionState where
  identity : Bytes
  maintenance : Bool
  platformOperator : Bool
  isDriver : Bool
  isRouted : Bool
  isPeerTrusted : Bool
  isForwardedFromPeer : Bool
  isForwarding : Bool

/-- A setting of a query packet. -/
structure Setting where
  key : Bytes
  value : Bytes

/-- The part of a query packet that plugins see. -/
structure Query where
  body : Bytes
  settings : List Setting
  oldSettings : List Setting

/-- The classification by the rewriter. -/
inductive StatementType where
  | unspecified
  | select
  | use
  | showTables
  | showCreateTable
  | existsTable
  | createTable
  | dropTable
  | alterTable
  | renameTable
  | insert
  | update
  | delete
  | createDatabase
  | showDatabases
  | dropDatabase
  | truncateTable
  | grant
  | revoke
  | createView
  | createMaterializedView
  | dropView
  | describe
  deriving DecidableEq

/-- What the plugins of a chain hand on. -/
structure QueryContext where
  originalSQL : Bytes
  rewrittenSQL : Bytes
  owner : Bytes
  query : Query
  statementType : StatementType
  abortWithSuccess : Bool

/-- The context that the relay hands to the chain. -/
def QueryContext.ofQuery (query : Query) : QueryContext :=
  ⟨query.body, [], [], query, .unspecified, false⟩

/-- What the commit gate hands to its observers. -/
structure GateEvent where
  statementType : StatementType
  user : Bytes
  owner : Bytes
  originalSQL : Bytes
  rewrittenSQL : Bytes
  deriving DecidableEq

/-- What the balance service answers. -/
inductive BalanceAnswer where
  | failed
  | allowed
  | rejected

/-- What the rewriter answers. -/
inductive RewriteAnswer where
  | rejected
  | unavailable
  | failed
  | rewritten (sql : Bytes) (statementType : StatementType) (contractMet : Bool)

/-- What an observer answers. -/
inductive ObserverAnswer where
  | passed
  | abortWithSuccess
  | failed

/-- The effect of a plugin that does not touch the privileges. -/
structure OtherAnswer where
  isForwarding : Bool
  refused : Bool

/--
The answers that the plugins get while one query is in the chain.  The empty
text has no letter to lower.
-/
structure Environment where
  toLowerText : Bytes → Bytes
  toLowerText_nil : toLowerText [] = []
  isOperator : Bytes → Bytes → Bool
  checkBalance : Bytes → Bytes → BalanceAnswer
  tableReference : Bytes → Option String
  readModeRefused : Query → Bool
  rewrite : Bytes → Bytes → RewriteAnswer
  observers : StatementType → List (GateEvent → ObserverAnswer)
  other : Nat → SessionState → OtherAnswer

/-- Why a plugin refused a query. -/
inductive Refusal where
  | token (failure : TokenError)
  | payerWithoutSigner
  | notOperator (signer owner : Bytes)
  | balance (payer signer : Bytes)
  | tableReference (rule : String)
  | setting (name : Bytes)
  | readMode
  | rewriter
  | contract
  | commitGate (statementType : StatementType)
  | other (plugin : Nat)

/-- The checks that privileged traffic is exempted from. -/
inductive Site where
  | billing
  | tableReferenceGuard
  | settingsCheck
  | rewriter
  | commitGate
  deriving DecidableEq

/-- What a plugin did on its way. -/
inductive Event where
  | exempted (site : Site)
  | checkedBalance (payer signer : Bytes)
  | guarded (sql : Bytes)
  | checkedSettings
  | rewrote (sql account : Bytes)
  | gated (event : GateEvent)
  deriving DecidableEq

/-- What a plugin leaves behind. -/
structure Reply where
  state : SessionState
  context : QueryContext
  events : List Event
  refusal : Option Refusal

/-- Hand the query to the next plugin. -/
def pass (state : SessionState) (context : QueryContext) (events : List Event) : Reply :=
  ⟨state, context, events, none⟩

def refuse (state : SessionState) (context : QueryContext) (events : List Event)
    (refusal : Refusal) : Reply :=
  ⟨state, context, events, some refusal⟩

/-- The map made from a list of settings: the last value of a key counts. -/
def settingsOf (settings : List Setting) : Settings :=
  fun key => (settings.reverse.find? fun setting => setting.key == key).map Setting.value

def payerSettingKey : Bytes := ascii "SQL_x_payer"

/-! ## Authentication -/

section Plugins

variable (library : Library) (now : Int64) (environment : Environment)

/-- The owner that a setting names, in the spelling of the source. -/
def payerOf (settings : Settings) : Option Bytes := (settings payerSettingKey).map fun raw =>
    environment.toLowerText (trimQuotes (trimUnicodeSpace raw))

/-- The owner on whose behalf the signer acts, or none. -/
def resolveOwner (access : Bool) (signer : Bytes) (settings : Settings) : Except Refusal Bytes :=
  match payerOf environment settings with
  | none | some [] => .ok []
  | some owner =>
    if signer = [] then
      .error .payerWithoutSigner
    else if owner = environment.toLowerText signer then
      .ok []
    else if !access then
      .ok []
    else if !environment.isOperator owner signer then
      .error (.notOperator signer owner)
    else
      .ok owner

/-- An identity replaces the last one; a flag is only ever set. -/
def recordResult (result : ValidationResult) (state : SessionState) : SessionState := { state with
    identity :=
      if result.address ≠ [] then result.address else state.identity
    maintenance := state.maintenance || result.maintenance
    platformOperator := state.platformOperator || result.platformOperator
    isDriver := state.isDriver || result.isDriver }

def authOnQuery (validator : Option Validator) (access : Bool) (state : SessionState)
    (context : QueryContext) : Reply :=
  match validator with
  | none => pass state context []
  | some validator =>
    let settings := settingsOf context.query.settings
    match validateQuery library validator now ⟨context.originalSQL, settings⟩ with
    | .error failure => refuse state context [] (.token failure)
    | .ok result =>
      let state := recordResult result state
      if result.maintenance || result.platformOperator || result.isDriver then
        pass state context []
      else
        match resolveOwner environment access result.address settings with
        | .error refusal => refuse state context [] refusal
        | .ok [] => pass state context []
        | .ok owner => pass state { context with owner := owner } []

/-! ## The exempted checks -/

/-- The first payer setting that has a value, or the signer. -/
def usagePayer (signer : Bytes) (settings : List Setting) : Bytes :=
  match settings.find? fun setting =>
      setting.key == payerSettingKey && setting.value != [] with
  | none => signer
  | some setting => trimQuotes setting.value

def usageOnQuery (client : Bool) (state : SessionState) (context : QueryContext) : Reply :=
  if !client then
    pass state context []
  else if state.maintenance || state.platformOperator || state.isDriver then
    pass state context [.exempted .billing]
  else if state.isForwardedFromPeer then
    pass state context []
  else if state.identity = [] then
    pass state context []
  else
    let signer := state.identity
    let payer := usagePayer signer context.query.settings
    let events := [.checkedBalance payer signer]
    match environment.checkBalance payer signer with
    | .failed | .allowed => pass state context events
    | .rejected => refuse state context events (.balance payer signer)

def tableRefGuardOnQuery (observe : Bool) (state : SessionState) (context : QueryContext) : Reply :=
  if state.maintenance || state.platformOperator then
    pass state context [.exempted .tableReferenceGuard]
  else if state.isPeerTrusted && !state.isForwardedFromPeer then
    pass state context []
  else
    let sql :=
      if context.query.body ≠ [] then context.query.body else context.originalSQL
    match environment.tableReference sql with
    | none => pass state context [.guarded sql]
    | some rule =>
      if observe then
        pass state context [.guarded sql]
      else
        refuse state context [.guarded sql] (.tableReference rule)

def refusedWhateverTheValue : List Bytes := ["additional_table_filters", "additional_result_filter",
    "parallel_replicas_custom_key",
    "dialect",
    "polyglot_dialect",
    "allow_experimental_polyglot_dialect",
    "allow_experimental_prql_dialect",
    "allow_experimental_kusto_dialect",
    "enable_global_with_statement",
    "compatibility",
    "implicit_table_at_top_level",
    "promql_table",
    "promql_database",
    "legacy_column_name_of_tuple_literal",
    "profile"].map ascii

def analyzerSettings : List Bytes := ["enable_analyzer", "allow_experimental_analyzer"].map ascii

def trueSpelling (value : Bytes) : Bool :=
  (["1", "true", "'1'", "'true'"].map ascii).contains (environment.toLowerText value)

def refusedSetting (setting : Setting) : Bool :=
  let lower := environment.toLowerText setting.key
  refusedWhateverTheValue.contains lower || (ascii "_dialect").isSuffixOf lower ||
    (analyzerSettings.contains lower && !trueSpelling environment setting.value)

variable (state : SessionState)
  (context : QueryContext)

def querySettingsOnQuery : Reply :=
  if state.maintenance || state.platformOperator then
    pass state context [.exempted .settingsCheck]
  else
    match context.query.settings.find? (refusedSetting environment) with
    | some setting => refuse state context [.checkedSettings] (.setting setting.key)
    | none =>
      match context.query.oldSettings with
      | setting :: _ => refuse state context [.checkedSettings] (.setting setting.key)
      | [] => pass state context [.checkedSettings]

def rewriteOnQuery (failOpenOnUnavailable : Bool) (state : SessionState)
    (context : QueryContext) : Reply :=
  if state.maintenance || state.platformOperator then
    pass state { context with rewrittenSQL := context.originalSQL } [.exempted .rewriter]
  else if environment.readModeRefused context.query then
    refuse state context [] .readMode
  else
    let account :=
      if context.owner = [] then state.identity else context.owner
    let events := [.rewrote context.originalSQL account]
    match environment.rewrite context.originalSQL account with
    | .rejected | .failed => refuse state context events .rewriter
    | .unavailable =>
      if failOpenOnUnavailable then
        pass state context events
      else
        refuse state context events .rewriter
    | .rewritten sql statementType contractMet =>
      if !contractMet then
        refuse state context events .contract
      else
        let context := { context with statementType := statementType }
        if sql = context.originalSQL then
          pass state context events
        else
          pass state { context with
              rewrittenSQL := sql
              query := { context.query with body := sql } }
            events

/--
The owner for whom the gate checks: the one that authentication resolved, or
the one that the settings name, unless it is the user.
-/
def gateOwner (resolved user : Bytes) (settings : List Setting) : Bytes :=
  let named := environment.toLowerText (trimUnicodeSpace resolved)
  let owner :=
    if named = [] then (payerOf environment (settingsOf settings)).getD [] else named
  if owner = environment.toLowerText user then [] else owner

def buildEvent : GateEvent where
  statementType := context.statementType
  user := state.identity
  owner := gateOwner environment context.owner state.identity context.query.settings
  originalSQL := context.originalSQL
  rewrittenSQL := context.rewrittenSQL

/-- The observers in turn, up to the first that does not pass the event. -/
def beforeStatement (event : GateEvent) : List (GateEvent → ObserverAnswer) → ObserverAnswer
  | [] => .passed
  | observer :: rest =>
    match observer event with
    | .passed => beforeStatement event rest
    | .abortWithSuccess => .abortWithSuccess
    | .failed => .failed

def commitGateOnQuery : Reply :=
  match environment.observers context.statementType with
  | [] => pass state context []
  | observer :: rest =>
    if state.maintenance || state.platformOperator || state.isDriver then
      pass state context [.exempted .commitGate]
    else
      let event := buildEvent environment state context
      match beforeStatement event (observer :: rest) with
      | .passed => pass state context [.gated event]
      | .abortWithSuccess => pass state { context with abortWithSuccess := true } [.gated event]
      | .failed => refuse state context [.gated event] (.commitGate context.statementType)

/-! ## The chain -/

/-- Which sessions a plugin runs on. -/
structure Filter where
  runOnRouted : Bool
  runOnPeerTrust : Bool
  runOnForward : Bool

/-- The plugins of a chain. -/
inductive QueryPlugin where
  | auth (validator : Option Validator) (access : Bool)
  | usage (client : Bool)
  | tableRefGuard (observe : Bool)
  | querySettings
  | rewrite (failOpenOnUnavailable : Bool)
  | commitGate
  | other (number : Nat) (filter : Filter)

def QueryPlugin.filter : QueryPlugin → Filter
  | .auth _ _ => ⟨false, false, true⟩
  | .usage _ => ⟨false, true, true⟩
  | .tableRefGuard _ => ⟨false, true, true⟩
  | .querySettings => ⟨false, false, true⟩
  | .rewrite _ => ⟨false, false, false⟩
  | .commitGate => ⟨false, false, false⟩
  | .other _ filter => filter

def QueryPlugin.onQuery : QueryPlugin → Reply
  | .auth validator access => authOnQuery library now environment validator access state context
  | .usage client => usageOnQuery environment client state context
  | .tableRefGuard observe => tableRefGuardOnQuery environment observe state context
  | .querySettings => querySettingsOnQuery environment state context
  | .rewrite failOpenOnUnavailable => rewriteOnQuery environment failOpenOnUnavailable state context
  | .commitGate => commitGateOnQuery environment state context
  | .other number _ =>
    let answer := environment.other number state
    let state := { state with isForwarding := answer.isForwarding }
    if answer.refused then refuse state context [] (.other number) else pass state context []

/-- Whether the chain leaves a plugin out on a session. -/
def skips (plugin : QueryPlugin) : Bool :=
  (state.isRouted && !plugin.filter.runOnRouted) ||
    (state.isPeerTrusted && !state.isForwardedFromPeer && !plugin.filter.runOnPeerTrust) ||
    (state.isForwarding && !plugin.filter.runOnForward)

/-- The state is read again before every plugin. -/
def runQueryFrom (state : SessionState) (context : QueryContext) : List QueryPlugin → Reply
  | [] => pass state context []
  | plugin :: rest =>
    if skips state plugin then
      runQueryFrom state context rest
    else
      let reply := plugin.onQuery library now environment state context
      match reply.refusal with
      | some _ => reply
      | none =>
        let later := runQueryFrom reply.state reply.context rest
        { later with events := reply.events ++ later.events }

end Plugins

/-- The parts of a server's configuration that choose its plugins. -/
structure ServerConfig where
  validator : Option Validator
  access : Bool
  usageClient : Bool
  guarded : Bool
  observe : Bool
  rewriter : Bool
  failOpenOnUnavailable : Bool
  commitGate : Bool
  beforeGuard : List (Nat × Filter)
  beforeRewrite : List (Nat × Filter)
  beforeCommitGate : List (Nat × Filter)
  afterCommitGate : List (Nat × Filter)

def others (plugins : List (Nat × Filter)) : List QueryPlugin :=
  plugins.map fun plugin => .other plugin.1 plugin.2

/-- The plugins behind authentication, as the server is built. -/
def laterPlugins (config : ServerConfig) : List QueryPlugin :=
  .usage config.usageClient :: others config.beforeGuard ++
    (if config.guarded then [.tableRefGuard config.observe, .querySettings] else []) ++
    others config.beforeRewrite ++
    (if config.rewriter then [.rewrite config.failOpenOnUnavailable] else []) ++
    others config.beforeCommitGate ++
    (if config.commitGate then [.commitGate] else []) ++
    others config.afterCommitGate

def queryPlugins (config : ServerConfig) : List QueryPlugin :=
  .auth config.validator config.access :: laterPlugins config

/-- A query with the clock and the answers it meets. -/
structure Submission where
  query : Query
  now : Int64
  environment : Environment

def onQuery (library : Library) (config : ServerConfig) (state : SessionState)
    (submission : Submission) : Reply :=
  runQueryFrom library submission.now submission.environment state
    (.ofQuery submission.query) (queryPlugins config)

end HouseGate.QueryChain
