import Workday.Main
import Workday.Proofs.Errand
import Workday.Proofs.Worklog
import Workday.Proofs.Logging
import Workday.Proofs.Logging.Plan
import Workday.Proofs.Allocation
import Workday.Proofs.Token
import Workday.Proofs.Timesheet
import Workday.Proofs.Decimal
import Workday.Proofs.Duration
import Workday.Proofs.Duration.Reading
import Workday.Proofs.Duration.Spelling
import Workday.Proofs.Logging.Conservation
import Workday.Proofs.Clock
import Workday.Proofs.Logging.Preview
import Workday.Proofs.InOrder
import Workday.Proofs.Draft
import Workday.Proofs.Places
import Workday.Proofs.TaskId
import Workday.Proofs.TaskId.Naming
import Workday.Proofs.Command
import Workday.Proofs.FileTree
import Workday.Proofs.Json.Text
import Workday.Proofs.Json.Record
import Workday.Proofs.Settings
import Workday.Proofs.Project
import Workday.Proofs.Logging.Arguments
import Workday.Proofs.FileTree.Directories
import Workday.Proofs.DataDirectory
import Workday.Proofs.Settings.Store
import Workday.Proofs.FileTree.Growth
import Workday.Proofs.Settings.Saving
import Workday.Proofs.Setup
import Workday.Proofs.Visits
import Workday.Proofs.Allocation.Outcome
import Workday.Proofs.Allocation.Shares
import Workday.Proofs.Debugging
import Workday.Proofs.Setup.Keeping
import Workday.Proofs.Allocation.Fairness
import Workday.Proofs.Allocation.Order
import Workday.Proofs.Draft.Calls
import Workday.Proofs.Deletion
import Workday.Proofs.Spreadsheet
import Workday.Proofs.Blank
import Workday.Proofs.Title
import Workday.Proofs.Worklog.Calls
import Workday.Proofs.Worklog.Lookup
import Workday.Proofs.Worklog.Writing
import Workday.Proofs.Listing
import Workday.Proofs.Overview
import Workday.Proofs.Number.Binary64
import Workday.Proofs.Decimal.Places
import Workday.Proofs.Hours
import Workday.Proofs.Settings.Frame
import Workday.Proofs.Json.Grammar
import Workday.Proofs.Json.Scanning
import Workday.Proofs.Json.Skipping
import Workday.Proofs.Json.Agreement
import Workday.Proofs.Json.Object
import Workday.Proofs.Settings.Reading
import Workday.Proofs.Calendar.TimeOfDay
import Workday.Proofs.Logging.StartTime
