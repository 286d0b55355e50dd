import AudioSets.Adapter
import AudioSets.Channel
import AudioSets.Config
import AudioSets.Contexts
import AudioSets.Device
import AudioSets.Failure
import AudioSets.Group
import AudioSets.Group.Roster
import AudioSets.Hub.Basic
import AudioSets.Hub.Call
import AudioSets.Hub.Lifecycle
import AudioSets.Hub.Reaction
import AudioSets.Hub.Run
import AudioSets.Json.Code
import AudioSets.Json.Domain
import AudioSets.Json.Reader
import AudioSets.Json.Token
import AudioSets.Json.Value
import AudioSets.Json.Writer
import AudioSets.Lock.Book
import AudioSets.Lock.Desk
import AudioSets.Lock.Status
import AudioSets.Log
import AudioSets.Machine.Crew
import AudioSets.Machine.Fleet
import AudioSets.Machine.Script
import AudioSets.Machine.Worker
import AudioSets.Notification
import AudioSets.Observer
import AudioSets.Observer.Desk
import AudioSets.Pattern
import AudioSets.Pattern.Atom
import AudioSets.Pattern.Class
import AudioSets.Proofs.Arbitration
import AudioSets.Proofs.Chronicle
import AudioSets.Proofs.Configuration
import AudioSets.Proofs.Hub.Aftermath
import AudioSets.Proofs.Hub.Agreement
import AudioSets.Proofs.Hub.Announcements
import AudioSets.Proofs.Hub.Asking
import AudioSets.Proofs.Hub.Backing
import AudioSets.Proofs.Hub.Bystanders
import AudioSets.Proofs.Hub.Commuting
import AudioSets.Proofs.Hub.Conduct
import AudioSets.Proofs.Hub.Course
import AudioSets.Proofs.Hub.Forwarding
import AudioSets.Proofs.Hub.Habits
import AudioSets.Proofs.Hub.Handover
import AudioSets.Proofs.Hub.Holders
import AudioSets.Proofs.Hub.Invariant
import AudioSets.Proofs.Hub.Machines
import AudioSets.Proofs.Hub.Memberships
import AudioSets.Proofs.Hub.Orders
import AudioSets.Proofs.Hub.Permission
import AudioSets.Proofs.Hub.Presence
import AudioSets.Proofs.Hub.Redelivery
import AudioSets.Proofs.Hub.Replies
import AudioSets.Proofs.Hub.Requests
import AudioSets.Proofs.Hub.Seniority
import AudioSets.Proofs.Hub.Statuses
import AudioSets.Proofs.Hub.Stranded
import AudioSets.Proofs.Hub.Summons
import AudioSets.Proofs.Hub.Unbonding
import AudioSets.Proofs.Hub.Watchers
import AudioSets.Proofs.Json.Fields
import AudioSets.Proofs.Json.Grammar
import AudioSets.Proofs.Json.RoundTrip
import AudioSets.Proofs.Json.Spelling
import AudioSets.Proofs.Json.Written
import AudioSets.Proofs.Ledger
import AudioSets.Proofs.Lock.Episodes
import AudioSets.Proofs.Lock.Exchange
import AudioSets.Proofs.Lock.History
import AudioSets.Proofs.Machine.Accounts
import AudioSets.Proofs.Machine.Reports
import AudioSets.Proofs.Machine.Sent
import AudioSets.Proofs.Machine.Session
import AudioSets.Proofs.Machine.Summons
import AudioSets.Proofs.Membership
import AudioSets.Proofs.Observing
import AudioSets.Proofs.Reading
import AudioSets.Proofs.Stability
import AudioSets.Reentry
import AudioSets.Routes
import AudioSets.Signal
import AudioSets.Table
import AudioSets.Text.Character
import AudioSets.Text.Hex
import AudioSets.Uuid
