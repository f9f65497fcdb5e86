import LocalCloud.Client.Run
import LocalCloud.Provider.Serve
import LocalCloud.TimeStamp

/-!
# The command line

What a user can ask for in a shell: the key of the authorization system, the
providers of a service, one call of a service, one published event, or an echo
service that runs until it is stopped.
-/

namespace LocalCloud.CommandLine

/-- What is to be done. -/
inductive Command where
  | publicKey
  | orchestrate (definition : String) (interface : Interface) (method : String)
  | consume (definition : String) (interface : Interface) (method : String)
      (body : Option String)
  | publish (eventType payload : String)
  | provideEcho (service : Service)
deriving DecidableEq

/-- A command and the configuration file it was given. -/
structure Invocation where
  config : Option String
  command : Command
deriving DecidableEq

/-- The words of a command line: options by their long names, and operands. -/
structure Words where
  options : List (String × String) := []
  operands : List String := []
deriving DecidableEq, Repr

namespace Words

def optionName? (word : String) : Option String :=
  match word with
  | "-c" => some "config"
  | "-i" => some "interface"
  | "-m" => some "method"
  | "-j" => some "json"
  | _ =>
    (["config", "interface", "method", "json", "definition", "uri", "access-policy"].find?
      fun name => word == "--" ++ name)

/-- Tells options from operands. -/
def ofArguments : List String → Except String Words
  | [] => .ok {}
  | word :: rest =>
    if word = "-v" ∨ word = "--verbose" then ofArguments rest
    else
      match optionName? word, rest with
      | some name, value :: rest => do
        let words ← ofArguments rest
        return { words with options := (name, value) :: words.options }
      | some name, [] => .error ("a value is required for '--" ++ name ++ "'")
      | none, rest =>
        if word.startsWith "-" then .error ("unexpected argument '" ++ word ++ "'")
        else do
          let words ← ofArguments rest
          return { words with operands := word :: words.operands }

def get? (words : Words) (name : String) : Option String :=
  (words.options.find? fun option => option.1 == name).map (·.2)

/-- Accepts some options beside the configuration file, and no other. -/
def allowing (words : Words) (names : List String) : Except String Unit :=
  match words.options.find? fun option => option.1 ∉ "config" :: names with
  | none => .ok ()
  | some option => .error ("unexpected argument '--" ++ option.1 ++ "'")

/-- The interface a consumer accepts. -/
def interface (words : Words) : Except String Interface :=
  (Interface.ofString ((words.get? "interface").getD "HTTP-SECURE-JSON")).mapError Error.message

/-- The method a service is called with. -/
def method (words : Words) : String :=
  (words.get? "method").getD "GET"

def echoService (words : Words) : Except String Service := do
  let policy ← (PolicyKind.ofName ((words.get? "access-policy").getD "CERTIFICATE")).mapError
    Error.message
  return {
    definition := (words.get? "definition").getD "echo"
    uri := (words.get? "uri").getD "echo"
    interface := .ofPolicy "HTTP" policy "JSON"
    policy := policy }

def command (words : Words) : Except String Command :=
  match words.operands with
  | ["public-key"] => do
    words.allowing []
    return .publicKey
  | ["orchestrate", definition] => do
    words.allowing ["interface", "method"]
    return .orchestrate definition (← words.interface) words.method
  | ["consume", definition] => do
    words.allowing ["interface", "method", "json"]
    return .consume definition (← words.interface) words.method (words.get? "json")
  | ["publish", eventType, payload] => do
    words.allowing []
    return .publish eventType payload
  | ["echo-provider"] => do
    words.allowing ["definition", "uri", "access-policy"]
    return .provideEcho (← words.echoService)
  | _ => .error ("usage: [--config FILE] "
      ++ "(public-key | orchestrate DEFINITION | consume DEFINITION | publish TYPE PAYLOAD "
      ++ "| echo-provider)")

end Words

def Invocation.ofArguments (arguments : List String) : Except String Invocation := do
  let words ← Words.ofArguments arguments
  return { config := words.get? "config", command := ← words.command }

/-- The services that a command provides; their handler is the echo. -/
def Command.services : Command → List (ServiceDeclaration Unit)
  | .provideEcho service => [⟨service, "POST", ()⟩]
  | _ => []

/-- A handler that sends back the JSON it was sent. -/
def echo (request : ServiceRequest) : Except Error ServiceResponse :=
  (request.json Json.Node.toValue?).map .ofJson

/-- What carries out the commands: a network, a server and a clock. -/
structure Host (m : Type → Type) where
  network : Network m Empty
  /-- Serves until it is stopped; every handler is the echo. -/
  serve : Client Empty Unit Empty → Provider Unit Empty → m (Except Error Unit)
  now : m Int

section Run

variable {m : Type → Type} [Monad m]

/-- Asks for providers with an interface; secure ones check certificates. -/
def orchestrate (host : Host m) (client : Client Empty Unit Empty) (definition : String)
    (interface : Interface) (method : String) :
    m (Except Error Nat × Client Empty Unit Empty) :=
  let policy : PolicyKind := if interface.isSecure then .certificate else .unrestricted
  let request :=
    OrchestrationRequest.withInterface {} interface.protocol policy interface.payload
  client.orchestrate host.network definition method request

def listing (client : Client Empty Unit Empty) (definition : String) (count : Nat) : List String :=
  let rules := (client.rules.get? definition).getD []
  (toString count ++ " provider(s) for " ++ definition)
    :: rules.map fun stored => "  " ++ (client.rules.current stored).toString

def bodyOf (text : Option String) : Except Error (Option Json.Value) :=
  match text with
  | none => .ok none
  | some text => (Error.ofOption .unreadableJson (Json.Value.ofString? text)).map some

/-- Carries out a command; the result are the lines to print. -/
def Command.run (host : Host m) (client : Client Empty Unit Empty) :
    Command → m (Except Error (List String))
  | .publicKey => do
    let (key, _) ← client.fetchKey host.network
    return key.map fun key => [key]
  | .orchestrate definition interface method => do
    let (count, client) ← CommandLine.orchestrate host client definition interface method
    return count.map (listing client definition)
  | .consume definition interface method body => do
    let (count, client) ← CommandLine.orchestrate host client definition interface method
    match count.bind fun _ => bodyOf body with
    | .error failure => return .error failure
    | .ok json =>
      let (reply, _) ← client.consume host.network definition { json := json }
      return reply.map fun reply => [reply.text]
  | .publish eventType payload => do
    let timeStamp := TimeStamp.render (← host.now) 0
    let published ← client.publish host.network eventType payload ∅ timeStamp
    return published.map fun () => ["published " ++ eventType]
  | .provideEcho _ => do
    let (served, _) ← client.run host.network host.serve
    return served.map fun () => []

end Run

end LocalCloud.CommandLine
