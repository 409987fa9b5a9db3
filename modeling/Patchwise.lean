import Patchwise.File.Tree
import Patchwise.Main
import Patchwise.Proofs.Deadline
import Patchwise.Proofs.Document
import Patchwise.Proofs.Group
import Patchwise.Proofs.InStep
import Patchwise.Proofs.Json.Places
import Patchwise.Proofs.Json.Printing
import Patchwise.Proofs.Manifest.Agreement
import Patchwise.Proofs.Manifest.Custody
import Patchwise.Proofs.Manifest.Regular
import Patchwise.Proofs.Manifest.Replacement
import Patchwise.Proofs.Manifest.Succession
import Patchwise.Proofs.PackageTool
import Patchwise.Proofs.PackageTool.Argument
import Patchwise.Proofs.Pipeline
import Patchwise.Proofs.Program
import Patchwise.Proofs.Report
import Patchwise.Proofs.Reporting
import Patchwise.Proofs.Settings
import Patchwise.Proofs.Summary
import Patchwise.Proofs.Upgrade.Approach
import Patchwise.Proofs.Upgrade.Changes
import Patchwise.Proofs.Upgrade.Guarded
import Patchwise.Proofs.Upgrade.Halting
import Patchwise.Proofs.Upgrade.Omission
import Patchwise.Proofs.Upgrade.Rehearsal
import Patchwise.Proofs.Upgrade.Repetition
import Patchwise.Proofs.Upgrade.Reverting
import Patchwise.Proofs.Upgrade.Selection
import Patchwise.Proofs.Upgrade.WorkingCopy
import Patchwise.Proofs.Group.Partition
import Patchwise.Proofs.Report.Answer
import Patchwise.Proofs.Report.Layout
import Patchwise.Proofs.Report.Restriction
import Patchwise.Proofs.Report.Lines
import Patchwise.Proofs.Report.Entries
import Patchwise.Proofs.Version.Distance
import Patchwise.Proofs.Whereabouts
import Patchwise.Proofs.Attempt
import Patchwise.Proofs.Pipeline.Status
import Patchwise.Proofs.Requirement.Reading
