/-
**Names of intent actions.**

The intent actions of the platform. Their order is the order of the columns of every table of the
family.
-/
import ApkFeatures.Vocabulary.Basic

namespace ApkFeatures.Vocabulary

/-- The intent actions of the platform. -/
def intentActions : Vocabulary where
  keys := [
    "android.intent.action.MAIN", "android.intent.action.VIEW", "android.intent.action.DIAL",
    "android.intent.action.CALL", "android.intent.action.SENDTO", "android.intent.action.SEND",
    "android.intent.action.SEND_MULTIPLE", "android.intent.action.INSERT",
    "android.intent.action.DELETE", "android.intent.action.EDIT", "android.intent.action.PICK",
    "android.intent.action.GET_CONTENT", "android.intent.action.OPEN_DOCUMENT",
    "android.intent.action.CREATE_DOCUMENT", "android.intent.action.CHOOSER",
    "android.intent.action.SEARCH", "android.intent.action.WEB_SEARCH",
    "android.intent.action.SYNC", "android.intent.action.SET_WALLPAPER",
    "android.intent.action.INSTALL_PACKAGE", "android.intent.action.UNINSTALL_PACKAGE",
    "android.intent.action.BOOT_COMPLETED", "android.intent.action.MEDIA_MOUNTED",
    "android.intent.action.MEDIA_UNMOUNTED", "android.intent.action.ACTION_POWER_CONNECTED",
    "android.intent.action.ACTION_POWER_DISCONNECTED", "android.intent.action.BATTERY_LOW",
    "android.intent.action.BATTERY_OKAY", "android.intent.action.DEVICE_STORAGE_LOW",
    "android.intent.action.DEVICE_STORAGE_OK", "android.intent.action.MANAGE_NETWORK_STORAGE",
    "android.intent.action.LOCALE_CHANGED", "android.intent.action.TIME_SET",
    "android.intent.action.TIMEZONE_CHANGED", "android.intent.action.REBOOT",
    "android.intent.action.SHUTDOWN", "android.intent.action.CONFIGURATION_CHANGED",
    "android.intent.action.CONTENT_CHANGED",
    "android.intent.action.EXTERNAL_APPLICATIONS_AVAILABLE",
    "android.intent.action.EXTERNAL_APPLICATIONS_UNAVAILABLE",
    "android.intent.action.PACKAGE_ADDED", "android.intent.action.PACKAGE_CHANGED",
    "android.intent.action.PACKAGE_REMOVED", "android.intent.action.PACKAGE_REPLACED",
    "android.intent.action.PACKAGE_RESTARTED", "android.intent.action.MY_PACKAGE_REPLACED",
    "android.intent.action.UID_REMOVED", "android.intent.action.USER_PRESENT",
    "android.intent.action.QUICK_VIEW", "android.intent.action.ASSIST",
    "android.intent.action.BUG_REPORT", "android.intent.action.PROCESS_TEXT",
    "android.intent.action.SHOW_APP_INFO", "android.intent.action.VOICE_COMMAND",
    "android.intent.action.CREATE_SHORTCUT", "android.intent.action.OPEN_DOCUMENT_TREE",
    "android.intent.action.OPEN_EXTERNAL_DIRECTORY", "android.intent.action.ADVANCED_SETTINGS",
    "android.intent.action.APPLICATION_DETAILS_SETTINGS",
    "android.intent.action.MANAGE_APPLICATIONS_SETTINGS",
    "android.intent.action.MANAGE_ALL_APPLICATIONS_ACCESS_PERMISSION",
    "android.intent.action.NOTIFICATION_POLICY_ACCESS_SETTINGS",
    "android.intent.action.ACTION_SEARCH_SETTINGS",
    "android.intent.action.SHOW_INPUT_METHOD_PICKER",
    "android.intent.action.SHOW_KEYBOARD_SHORTCUTS",
    "android.intent.action.ACTION_SHOW_WORK_POLICY",
    "android.intent.action.ACTION_SYSTEM_LOCALE_CHANGED",
    "android.intent.action.UPGRADE_ASSISTANT", "android.intent.action.AUTO_FILL_SET_SERVICE",
    "android.intent.action.RESOLVE_ACTIVITY", "android.intent.action.NEXT",
    "android.intent.action.PREVIOUS", "android.intent.action.CLOSE_SYSTEM_DIALOGS",
    "android.intent.action.ALL_APPS", "android.intent.action.STK_INVOKE",
    "android.intent.action.STK_CC_OPEN", "android.intent.action.STK_CMD",
    "android.intent.action.STK_EVENT", "android.intent.action.DEVICE_LOCKED_CHANGED",
    "android.intent.action.PROFILE_PROVISIONING_COMPLETE",
    "android.intent.action.PROFILE_PROVISIONING_ERROR",
    "android.intent.action.PROVISIONING_REQUIRED", "android.intent.action.ACTION_SESSION_DETAILS",
    "android.intent.action.VIEW_INSTANT_APP", "android.intent.action.START_ACTIVITY_FROM_RECENTS",
    "android.intent.action.SHOW_RECENT_APPS", "android.intent.action.GLOBAL_BUTTON",
    "android.intent.action.KEYBOARD_RESOURCE_MAPPING", "android.intent.action.MEDIA_BUTTON",
    "android.intent.action.PRE_BOOT_COMPLETED", "android.intent.action.UMS_CONNECTED",
    "android.intent.action.UMS_DISCONNECTED", "android.intent.action.USER_INITIALIZE",
    "android.intent.action.USER_ADDED", "android.intent.action.USER_REMOVED",
    "android.intent.action.USER_STARTED", "android.intent.action.USER_STOPPED",
    "android.intent.action.USER_UNLOCKED", "android.intent.action.USER_BACKGROUND",
    "android.intent.action.USER_FOREGROUND", "android.intent.action.LOCKED_BOOT_COMPLETED",
    "android.intent.action.ACTION_PREFERRED_ACTIVITY_CHANGED",
    "android.intent.action.PACKAGE_DATA_CLEARED", "android.intent.action.PACKAGE_FULLY_SUSPENDED",
    "android.intent.action.PACKAGE_UNSUSPENDED", "android.intent.action.START_INSTRUMENTATION",
    "android.intent.action.FINISH_INSTRUMENTATION",
    "android.intent.action.GET_PREFERRED_APPLICATIONS",
    "android.intent.action.CLEAR_PREFERRED_APPLICATIONS",
    "android.intent.action.CHANGE_COMPONENT_ENABLED_STATE",
    "android.intent.action.SHOW_SUSPENDED_APP_DETAILS", "android.intent.action.REQUEST_OMNIFOCUS",
    "android.intent.action.DISMISS_KEYBOARD", "android.intent.action.SHOW_VOICE_INPUT_PICKER",
    "android.intent.action.PROCESS_WIDGETS", "android.intent.action.GET_CONTENT_WITH_PERMISSION",
    "android.intent.action.REVIEW_VOICE_INTERACTIONS",
    "android.intent.action.GET_RESTRICTION_ENTRIES", "android.intent.action.START_CAPTURE",
    "android.intent.action.STOP_CAPTURE", "android.intent.action.SHOW_APP_PREFERENCES",
    "android.intent.action.ENTER_CAR_MODE", "android.intent.action.EXIT_CAR_MODE",
    "android.intent.action.SET_MEDIA_PLAYBACK", "android.intent.action.PLAY_FROM_SEARCH",
    "android.intent.action.MEDIA_PLAY_FROM_SEARCH", "android.intent.action.MEDIA_PAUSE",
    "android.intent.action.MEDIA_PLAY", "android.intent.action.MEDIA_PLAY_FROM_URI",
    "android.intent.action.MEDIA_PREPARE", "android.intent.action.MEDIA_RECORD",
    "android.intent.action.MEDIA_STOP", "android.intent.action.MEDIA_STEP_BACKWARD",
    "android.intent.action.MEDIA_STEP_FORWARD", "android.intent.action.MEDIA_STEP_INTO",
    "android.intent.action.MEDIA_STEP_OUT", "android.intent.action.ACTION_PLAY_FROM_ID",
    "android.intent.action.ACTION_PLAY_FROM_INDEX", "android.intent.action.ACTION_CHANGE_VOLUME",
    "android.intent.action.ACTION_SET_PLAYBACK_SPEED",
    "android.intent.action.ACTION_SET_REPEAT_MODE",
    "android.intent.action.ACTION_HANDLE_MEDIA_KEY",
    "android.intent.action.ACTION_NOTIFY_SESSION_STATE_CHANGED",
    "android.intent.action.ACTION_SET_RINGTONE", "android.intent.action.RINGTONE_PICKER",
    "android.intent.action.ACTION_GET_SAMPLE_DATA", "android.intent.action.OPEN_DOCUMENT_SETTINGS",
    "android.intent.action.PRINT", "android.intent.action.PRINT_DOCUMENT",
    "android.intent.action.PRINT_WRITE", "android.intent.action.PRINT_JOB_QUEUED",
    "android.intent.action.PRINT_JOB_STATE_CHANGED", "android.intent.action.PRINT_SPOOLER_STARTED",
    "android.intent.action.PRINT_SPOOLER_STOPPED", "android.intent.action.VIEW_DOWNLOADS",
    "android.intent.action.DOWNLOAD_COMPLETE",
    "android.intent.action.DOWNLOAD_NOTIFICATION_CLICKED",
    "android.intent.action.RESTART_DOWNLOAD", "android.intent.action.ENQUEUE",
    "android.intent.action.PAUSE", "android.intent.action.PAUSE_ALL",
    "android.intent.action.RESUME", "android.intent.action.RESUME_ALL",
    "android.intent.action.CANCEL", "android.intent.action.HIDE", "android.intent.action.SHOW",
    "android.intent.action.MIME_TYPE_CHANGED", "android.intent.action.SYNC_STATUS_CHANGED",
    "android.intent.action.AUTHENTICATE", "android.intent.action.ACCOUNT_REMOVED",
    "android.intent.action.ADD_ACCOUNT", "android.intent.action.REQUEST_SYNC",
    "android.intent.action.SEND_MULTIPLE_SYNC", "android.intent.action.SEND_SYNC",
    "android.intent.action.SYNC_ERROR", "android.intent.action.DISCOVER",
    "android.intent.action.CREATE_ACTION", "android.intent.action.RECOGNIZE_SPEECH",
    "android.intent.action.GET_LANGUAGE_DETAILS", "android.intent.action.TRANSLATE",
    "android.intent.action.TRANSLATION_SERVICE",
    "android.intent.action.PROVIDE_DEFAULT_VOICE_INTERACTION_SERVICE",
    "android.intent.action.VOICE_ASSIST", "android.intent.action.LAUNCH_VOICE_SEARCH",
    "android.intent.action.REPORT_TEXT", "android.intent.action.SELECT_TEXT",
    "android.intent.action.SHOW_OR_HIDE_INPUT_METHOD", "android.intent.action.TOGGLE_INPUT_METHOD",
    "android.intent.action.PICK_KEYBOARD_LAYOUT", "android.intent.action.TOGGLE_INPUT",
    "android.intent.action.CLEAR_APP_CACHE", "android.intent.action.CLEAR_APP_DATA",
    "android.intent.action.CLEAR_APP_PREFERRED_SETTINGS", "android.intent.action.MANAGE_SPACE",
    "android.intent.action.MANAGE_SPACE_INTERNAL", "android.intent.action.MANAGE_APP_PERMISSIONS",
    "android.intent.action.MANAGE_DEFAULT_APPS_SETTINGS",
    "android.intent.action.MANAGE_ROLE_ACCESS", "android.intent.action.REQUEST_INSTALL_PACKAGES",
    "android.intent.action.VIEW_APP_DETAILS", "android.intent.action.REQUEST_DELETE_PACKAGES",
    "android.intent.action.REQUEST_SCAN_FILE", "android.intent.action.RESPOND_VIA_MESSAGE",
    "android.intent.action.SEND_MESSAGE", "android.intent.action.AUTO_SEND",
    "android.intent.action.ECM_CHANGED",
    "android.intent.action.ACTION_SHOW_CURRENT_PERMISSION_GRANTS",
    "android.intent.action.ACTION_VOICE_SESSION", "android.intent.action.DIAL_EMERGENCY",
    "android.intent.action.CALL_EMERGENCY", "android.intent.action.CONFIGURE_VOICEMAIL",
    "android.intent.action.CHECK_VOICEMAIL", "android.intent.action.ADD_VOICEMAIL",
    "android.intent.action.ACTION_ ক্যারি_ON_SUBSCRIPTION",
    "android.intent.action.ACTION_CONFIGURE_PHONE_ACCOUNT",
    "android.intent.action.ACTION_CHANGE_PHONE_ACCOUNT",
    "android.intent.action.ACTION_DISABLE_SELF_CALL",
    "android.intent.action.ACTION_SHOW_SUBSCRIPTION_SETTING",
    "android.intent.action.ACTION_MANAGE_SUBSCRIPTION_PLANS",
    "android.intent.action.ACTION_PERFORM_VOICE_CALL",
    "android.intent.action.ACTION_PERFORM_VIDEO_CALL",
    "android.intent.action.ACTION_PERFORM_IMS_CALL",
    "android.intent.action.ACTION_PERFORM_RTT_CALL",
    "android.intent.action.ACTION_SHOW_CALL_SCREEN",
    "android.intent.action.ACTION_SHOW_CALL_HISTORY", "android.intent.action.ACTION_ADD_CALL",
    "android.intent.action.ACTION_ANSWER", "android.intent.action.ACTION_ANSWER_VIDEO",
    "android.intent.action.ACTION_DECLINE", "android.intent.action.ACTION_HANG_UP",
    "android.intent.action.ACTION_CHANGE_DEFAULT",
    "android.intent.action.ACTION_CHANGE_DEFAULT_DIALER",
    "android.intent.action.ACTION_GET_DEFAULT_SUBSCRIPTION_ID",
    "android.intent.action.ACTION_SHOW_MISSED_CALLS",
    "android.intent.action.ACTION_PLUG_IN_MANAGED_PROFILE",
    "android.intent.action.ACTION_PROVISION_MANAGED_PROFILE",
    "android.intent.action.ACTION_INSTALL_PACKAGE_SESSION",
    "android.intent.action.ACTION_COMMIT_SESSION", "android.intent.action.ACTION_ABANDON_SESSION",
    "android.intent.action.ACTION_OPEN_APP_PERMISSION_SETTINGS",
    "android.intent.action.ACTION_REVIEW_PERMISSIONS",
    "android.intent.action.ACTION_APPLICATION_PREFERENCES", "android.intent.action.VIEW_CONTENT",
    "android.intent.action.EDIT_CONTENT", "android.intent.action.PICK_ACTIVITY",
    "android.intent.action.BROWSE", "android.intent.action.INSERT_CALENDAR_EVENT",
    "android.intent.action.INSERT_CONTACT", "android.intent.action.ADD_TO_HOME_SCREEN",
    "android.intent.action.INSTALL_SHORTCUT", "android.intent.action.UNINSTALL_SHORTCUT",
    "android.intent.action.DREAMING_STARTED", "android.intent.action.DREAMING_STOPPED",
    "android.intent.action.SCREEN_OFF", "android.intent.action.SCREEN_ON",
    "android.intent.action.ACTION_DOCK_EVENT", "android.intent.action.ACTION_HEADSET_PLUG",
    "android.intent.action.ACTION_NEW_OUTGOING_CALL", "android.intent.action.PHONE_STATE",
    "android.intent.action.ACTION_EXTERNAL_STORAGE_MOUNTED",
    "android.intent.action.ACTION_EXTERNAL_STORAGE_UNMOUNTED",
    "android.intent.action.ACTION_GTALK_SERVICE_CONNECTED",
    "android.intent.action.ACTION_GTALK_SERVICE_DISCONNECTED",
    "android.intent.action.INPUT_METHOD_CHANGED", "android.intent.action.NEW_PICTURE",
    "android.intent.action.NEW_VIDEO", "android.intent.action.PROVIDER_CHANGED",
    "android.intent.action.PROXY_CHANGE", "android.intent.action.REBOOT_REQUIRED",
    "android.intent.action.SEARCH_LONG_PRESS"]

end ApkFeatures.Vocabulary
