import ScriptBridge.Main
import ScriptBridge.Proofs.Runs.Operations
import ScriptBridge.Proofs.Expressions.Closure
import ScriptBridge.Proofs.Expressions.Identity
import ScriptBridge.Proofs.Expressions.Interference
import ScriptBridge.Proofs.Posting.Journal
import ScriptBridge.Session.Run
import ScriptBridge.Session.Workers
import ScriptBridge.Proofs.Runs.Names
import ScriptBridge.Proofs.Messages.Errands
import ScriptBridge.Proofs.Messages.Failures
import ScriptBridge.Proofs.Messages.Whitelist
import ScriptBridge.Proofs.Messages.Replies
import ScriptBridge.Proofs.Data.ReadBack
import ScriptBridge.Proofs.Workers.Rounds
import ScriptBridge.Proofs.Bindings.Rebinding
import ScriptBridge.Proofs.Messages.Forwarded
import ScriptBridge.Proofs.Messages.Shadowed
import ScriptBridge.Proofs.Bindings.Unbound
import ScriptBridge.Proofs.Messages.Decoded
import ScriptBridge.Proofs.Messages.Elsewhere
import ScriptBridge.Proofs.Messages.Threads
import ScriptBridge.Proofs.Engines.Driving
import ScriptBridge.Proofs.Messages.Wholes
import ScriptBridge.Proofs.Stubs.Hooked
import ScriptBridge.Proofs.Stubs.Legible
import ScriptBridge.Proofs.Expressions.Numbered
import ScriptBridge.Proofs.Files.Confined
import ScriptBridge.Proofs.Files.Contents
import ScriptBridge.Proofs.Settings.Written
