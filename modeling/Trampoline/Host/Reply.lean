import Trampoline.Host

/-!
The replies of a host to the requests of code.
-/

namespace Trampoline.Host

variable {Memory : Type}

def reply (host : Host Memory) : (request : Request Memory) → request.Reply × Host Memory
  | .recall => (host.memory, host)
  | .modify change => ((), { host with memory := change host.memory })
  | .note note => ((), host.write (.note note))
  | .threadName => (host.thread.name, host)
  | .isGuarded => (decide (0 < host.thread.guards), host)
  | .capturedPanics => (host.capturedPanics, host)
  | .silenceGuarded => ((), { host with silencesGuarded := true })
  | .newToken =>
      let (token, tokens) := host.tokens.create
      (token, { host with tokens })
  | .cancel token reason => ((), host.cancel token reason)
  | .push parent child => ((), host.push parent child)
  | .pop parent =>
      let (child, tokens) := host.tokens.pop parent
      (child, { host with tokens })
  | .status token => (host.tokens.status token, host)
  | .isArmed completer => ((host.boundary? completer.run).any Boundary.isArmed, host)
  | .settings => host.readSettings
  | .installedSettings => (host.settings, host)
  | .install settings => host.install settings
  | .settingsFrom given =>
      match given.settings with
      | .ok settings => (settings, host)
      | .error fault => ({}, host.emit (.ignoredVariables fault.shown))
  | .newSpawner => (host.spawned.size, { host with spawned := host.spawned.push 0 })
  | .spawned spawner => (host.spawned[spawner]?.getD 0, host)

end Trampoline.Host
